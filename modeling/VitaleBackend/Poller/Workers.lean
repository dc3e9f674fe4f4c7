import Mathlib.Logic.Function.Basic
import VitaleBackend.Poller.Commits
import VitaleBackend.Poller.Growth
import VitaleBackend.Poller.Loop
import VitaleBackend.Poller.Redelivery

/-!
# Several processes in the loop

Any number of processes may work on GP responses at once: cron starts one every hour, and a slow one
is still there. Their transactions and those of the other services come in any order, fail, or are
where a process stops (`Step`). A snapshot is inserted by one process, which had selected its
predecessor before, from tables that may not be those of the insert; the world keeps what it had
seen (`Stored`). Nobody else records an event for the snapshot: its events are those that the rules
fire for it and that one predecessor, in their order, each at most once, up to the call that did not
go through (`events_recorded_once`).
-/

namespace VitaleBackend

open Process Relational

/-! ## The events of a snapshot -/

/-- The events that name a snapshot as the new one, in the order of their rows. -/
def eventsAt (q : Nat) (db : Database) : List RecordedEvent :=
  (db.audtEvents.map (·.recorded)).filter (·.newSnapshotId = some q)

/-- A new event is the last one of its snapshot, and none of the others. -/
theorem eventsAt_addEvent {call : Call} {n : Int} {e : DetectedEvent} {p q : Nat}
    {db : Database} (ha : db.EventAllowed (Sql.eventRow call n e (some p) (some q) db)) (k : Nat) :
    eventsAt k (db.addEvent _ ha) =
      eventsAt k db ++ if q = k then [⟨n, e, some p, some q⟩] else [] := by
  rw [eventsAt, Database.addEvent_audtEvents, List.map_append, List.filter_append, eventsAt,
    List.map_singleton, recorded_eventRow]
  by_cases hk : q = k <;> simp [hk]

/-- An event names a snapshot that is stored. -/
theorem eventsAt_eq_nil {q : Nat} {db : Database} (h : q ∉ db.snapshots.map (·.id)) :
    eventsAt q db = [] := by
  refine List.filter_eq_nil_iff.2 fun r hr hq => h ?_
  obtain ⟨e, he, rfl⟩ := List.mem_map.1 hr
  exact db.event_new e he q (of_decide_eq_true hq)

/-- Work that stores no snapshot and records no event of one. -/
structure Quiet (db db' : Database) : Prop where
  objects : db.objects.keys ⊆ db'.objects.keys
  snapshots : db'.snapshots = db.snapshots
  recorded : ∀ q, eventsAt q db' = eventsAt q db

/-- Doing nothing is quiet. -/
theorem Quiet.refl (db : Database) : Quiet db db := ⟨List.Subset.refl _, rfl, fun _ => rfl⟩

/-- Quiet work in a row is quiet. -/
theorem Quiet.trans {a b c : Database} (h : Quiet a b) (h' : Quiet b c) : Quiet a c :=
  ⟨List.Subset.trans h.objects h'.objects, h'.snapshots.trans h.snapshots,
    fun q => (h'.recorded q).trans (h.recorded q)⟩

/-- The transactions of the other services, and of a poller outside the loop. -/
inductive OtherCommit (X : Externals) (db : Database) : Database → Prop
  | batch {call : Call} {objs : List ObjectRecord} {events : List DetectedEvent} {db' : Database} :
      Sql.upsertObjectsFromSatcat X makeDefaultObjectRuleRegistry call objs db = .ok (events, db') →
        OtherCommit X db db'
  | stamp (pollerName : String) (now : Timestamp) :
      OtherCommit X db (Sql.markPollerRun pollerName now db)
  | cursor {c : Int} {now : Timestamp} {db' : Database} :
      Sql.advanceGpRotationCursor c now db = .ok db' → OtherCommit X db db'
  | hit (noradCatId : Int) : OtherCommit X db (Sql.countHit noradCatId db)

/-- The upsert of a record records events of no snapshot. -/
theorem UpsertedRow.quiet {X : Externals} {registry : RuleRegistry ObjectState} {call : Call}
    {obj : ObjectRecord} {db db' : Database} (h : UpsertedRow X registry call obj db db') :
    Quiet db db' := by
  refine ⟨fun k hk => h.mem_keys.2 (.inl hk), h.snapshots, fun q => ?_⟩
  rw [eventsAt, h.audtEvents, List.filter_append, eventsAt]
  refine (congrArg _ (List.filter_eq_nil_iff.2 fun r hr => ?_)).trans (List.append_nil _)
  obtain ⟨e, -, rfl⟩ := List.mem_map.1 hr
  simp

/-- The other services are quiet: a batch, a stamp, a move of the cursor or a hit. -/
theorem OtherCommit.quiet {X : Externals} {db db' : Database} (h : OtherCommit X db db') :
    Quiet db db' := by
  cases h with
  | batch h =>
    exact upsertObjectsFromSatcat_preserves (P := Quiet db)
      (fun _ _ _ _ hrow hq => hq.trans hrow.quiet) h (.refl db)
  | stamp pollerName now => exact ⟨List.Subset.refl _, rfl, fun _ => rfl⟩
  | cursor h =>
    obtain ⟨-, rfl⟩ := Sql.advanceGpRotationCursor_ok.1 h
    exact ⟨List.Subset.refl _, rfl, fun _ => rfl⟩
  | hit n =>
    refine ⟨fun k hk => ?_, rfl, fun _ => rfl⟩
    obtain ⟨row, hrow⟩ := Table.exists_find? hk
    exact Table.mem_keys.2 ⟨_, Table.find?_eq_some.1
      ((Table.find?_update _ _ (ObjectRow.countHit_noradCatId n) _).trans (congrArg _ hrow))⟩

/-- Each of them is a commit. -/
theorem OtherCommit.commit {X : Externals} {db db' : Database} (h : OtherCommit X db db') :
    Commit X db db' := by
  cases h with
  | batch h => exact .batch h
  | stamp pollerName now => exact .stamp pollerName now db
  | cursor h => exact .cursor h
  | hit n => exact .hit n db

/-! ## What a call does -/

namespace Stage

/-- The process records the events of a snapshot. -/
def Records (q : Nat) : Stage → Prop
  | .todo _ => False
  | .selected _ _ _ => False
  | .recording _ _ q' _ _ _ => q' = q

/-- The snapshot whose recording ends with a call that does not go through. -/
def lost (call : Call) : Stage → List Nat
  | .todo _ => []
  | .selected _ _ _ => []
  | .recording _ _ q _ _ _ => if call.fault = .none then [] else [q]

/-- The tables that the process has last selected from, after its next call. -/
def sees (seen db : Database) : Stage → Database
  | .todo _ => db
  | .selected _ _ _ => seen
  | .recording _ _ _ _ _ _ => seen

end Stage

/-- A snapshot that was inserted: its id, the record of the process that inserted it, and the tables
from which that process had selected the last snapshot of the object. -/
structure Stored where
  id : Nat
  record : GpRecord
  seen : Database

/-- What the rules fire for a stored snapshot and the last one of its object that its process had
seen, as the events to record. -/
def Stored.fired (X : Externals) (st : Stored) : List RecordedEvent :=
  firedEvents (Sql.getLastSnapshot X st.record.object.noradCatId st.seen) st.record st.id

/-- The snapshot that the next call of a process inserts, if it does. -/
def Stage.stores (X : Externals) (call : Call) (seen db : Database) : Stage → List Stored
  | .todo _ => []
  | .selected r _ _ =>
    match (transact call db fun call db => Sql.insertSnapshot X call r.snapshot db).1 with
    | .ok id => [⟨id, r, seen⟩]
    | _ => []
  | .recording _ _ _ _ _ _ => []

/-- All that a call in the loop can do, with what it inserts. -/
inductive StageStep (X : Externals) (call : Call) (seen : Database) :
    Stage → Database → Stage → Database → List Stored → Prop
  /-- nothing is committed, and the loop goes on or is over -/
  | pass {stage : Stage} (db : Database) (rest : List GpRecord) (h : ∀ q, ¬ stage.Records q) :
      StageStep X call seen stage db (.todo rest) db []
  | select (r : GpRecord) (rest : List GpRecord) (db : Database)
      (h : (Sql.getLastSnapshot X r.object.noradCatId db).any (·.gpId = r.snapshot.gpId) = false) :
      StageStep X call seen (.todo (r :: rest)) db
        (.selected r (Sql.getLastSnapshot X r.object.noradCatId db) rest) db []
  | insert (r : GpRecord) (prev : Option Snapshot) (rest : List GpRecord) {db : Database}
      {row : SnapshotRow} (hrow : SnapshotRow.ofSnapshot X
        (lastId (db.snapshots.map (·.id)) + 1 + call.gap) call.now r.snapshot = .ok row)
      (h : db.SnapshotAllowed row) :
      StageStep X call seen (.selected r prev rest) db (Stage.inserted r prev rest row.id)
        (db.addSnapshot row h) [⟨row.id, r, seen⟩]
  | record (n : Int) (p q : Nat) (event : DetectedEvent) (events : List DetectedEvent)
      (rest : List GpRecord) {db : Database}
      (h : db.EventAllowed (Sql.eventRow call n event (some p) (some q) db))
      (hf : call.fault = .none) :
      StageStep X call seen (.recording n p q event events rest) db
        (Stage.record n p q rest events) (db.addEvent _ h) []
  | lose (n : Int) (p q : Nat) (event : DetectedEvent) (events : List DetectedEvent)
      (rest rest' : List GpRecord) (db : Database)
      (h : db.EventAllowed (Sql.eventRow call n event (some p) (some q) db) →
        call.fault ≠ .none) :
      StageStep X call seen (.recording n p q event events rest) db (.todo rest') db []

/-- A transaction in the loop commits and returns, or commits nothing and does not return. -/
theorem transact_cases (call : Call) (db : Database)
    (body : Call → Database → Except Exn (α × Database)) :
    (call.fault = .none ∧ ∃ a db', body call db = .ok (a, db') ∧
      transact call db body = (.ok a, db')) ∨
    ((call.fault = .none → ∃ e, body call db = .error e) ∧ ∃ outcome,
      transact call db body = (outcome, db) ∧ ∀ a, outcome ≠ .ok a) := by
  unfold transact
  cases hf : call.fault with
  | stops => exact .inr ⟨nofun, .stopped, rfl, nofun⟩
  | fails => exact .inr ⟨nofun, .error .db, rfl, nofun⟩
  | none =>
    dsimp only
    cases hb : body call db with
    | error e => exact .inr ⟨fun _ => ⟨e, rfl⟩, .error e, rfl, nofun⟩
    | ok r => exact .inl ⟨rfl, r.1, r.2, rfl, rfl⟩

/-- A process whose call did not return goes on with other records, or with none. -/
theorem exists_after (next : α → Stage) (rest : List GpRecord) {outcome : Outcome Exn α}
    (h : ∀ a, outcome ≠ .ok a) : ∃ rest', Stage.after next rest outcome = .todo rest' := by
  cases outcome with
  | ok a => exact absurd rfl (h a)
  | error e => exact ⟨rest, rfl⟩
  | stopped => exact ⟨[], rfl⟩

/-- The next call of a process does one of these things, and inserts what it says. -/
theorem advance_step (X : Externals) (call : Call) (seen db : Database) (stage : Stage) :
    StageStep X call seen stage db (stage.advance X call db).1 (stage.advance X call db).2
      (stage.stores X call seen db) := by
  cases stage with
  | todo records =>
    cases records with
    | nil => exact .pass db [] fun _ => id
    | cons r rest =>
      dsimp only [Stage.advance, Stage.stores]
      rcases transact_cases call db (fun _ db =>
        .ok (Sql.getLastSnapshot X r.object.noradCatId db, db)) with
        ⟨-, prev, db', hb, h⟩ | ⟨-, outcome, h, hne⟩ <;> rw [h]
      · cases hb
        show StageStep X call seen _ db
          (Stage.compared r rest (Sql.getLastSnapshot X r.object.noradCatId db)) db []
        unfold Stage.compared
        split
        · exact .pass db rest fun _ => id
        · next hany => exact .select r rest db (Bool.eq_false_iff.2 hany)
      · obtain ⟨rest', hrest⟩ := exists_after (Stage.compared r rest) rest hne
        dsimp only
        rw [hrest]
        exact .pass db rest' fun _ => id
  | selected r prev rest =>
    dsimp only [Stage.advance, Stage.stores]
    rcases transact_cases call db (fun call db => Sql.insertSnapshot X call r.snapshot db) with
      ⟨-, q, db', hb, h⟩ | ⟨-, outcome, h, hne⟩ <;> rw [h]
    · obtain ⟨row, hrow, rfl, ha, rfl⟩ := Sql.insertSnapshot_ok.1 hb
      exact .insert r prev rest hrow ha
    · obtain ⟨rest', hrest⟩ := exists_after (Stage.inserted r prev rest) rest hne
      have hnone : (match outcome with
          | .ok id => [(⟨id, r, seen⟩ : Stored)]
          | _ => []) = [] := by
        cases outcome with
        | ok a => exact absurd rfl (hne a)
        | error e => rfl
        | stopped => rfl
      dsimp only
      rw [hrest, hnone]
      exact .pass db rest' fun _ => id
  | recording n p q event events rest =>
    dsimp only [Stage.advance, Stage.stores]
    rcases transact_cases call db (fun call db =>
      ((), ·) <$> Sql.insertEvent call n event (some p) (some q) db) with
      ⟨hf, _, db', hb, h⟩ | ⟨he, outcome, h, hne⟩ <;> rw [h]
    · obtain ⟨ha, rfl⟩ := Sql.insertEvent_ok.1 (map_unit_ok.1 hb)
      exact .record n p q event events rest ha hf
    · obtain ⟨rest', hrest⟩ := exists_after (fun _ => Stage.record n p q rest events) rest hne
      dsimp only
      rw [hrest]
      refine .lose n p q event events rest rest' db fun ha hf => ?_
      obtain ⟨e, he⟩ := he hf
      have hok : ((), ·) <$> Sql.insertEvent call n event (some p) (some q) db =
          .ok ((), db.addEvent _ ha) := map_unit_ok.2 (Sql.insertEvent_ok.2 ⟨ha, rfl⟩)
      cases hok.symm.trans he

/-- A call in the loop commits a snapshot or an event, or nothing. -/
theorem StageStep.commits {X : Externals} {call : Call} {seen db db' : Database}
    {stage stage' : Stage} {stored : List Stored}
    (h : StageStep X call seen stage db stage' db' stored) : Commits X db db' := by
  cases h with
  | pass rest hnone => exact .refl
  | select r rest hany => exact .refl
  | insert r prev rest hrow ha =>
    exact .single (.snapshot (Sql.insertSnapshot_ok.2 ⟨_, hrow, rfl, ha, rfl⟩))
  | record n p q event events rest ha hf =>
    exact .single (.event (Sql.insertEvent_ok.2 ⟨ha, rfl⟩))
  | lose n p q event events rest rest' hfault => exact .refl

/-! ## What a snapshot fires -/

namespace Stored

/-- How a snapshot was stored: as this row, for a record that is not of the last snapshot that the
process had seen, with all that the process had seen among the rows that were there before. -/
structure StoredAs (X : Externals) (snapshots : List SnapshotRow) (st : Stored)
    (row : SnapshotRow) : Prop where
  id_eq : row.id = st.id
  reads : SnapshotRow.ofSnapshot X row.id row.fetchedAt st.record.snapshot = .ok row
  fresh : (Sql.getLastSnapshot X st.record.object.noradCatId st.seen).any
    (·.gpId = st.record.snapshot.gpId) = false
  seen : ∃ before, before ++ [row] <+: snapshots ∧ st.seen.snapshots <+: before

section
variable {X : Externals} {snapshots snapshots' : List SnapshotRow} {st : Stored}
  {row : SnapshotRow}

/-- How a snapshot was stored does not change when others are stored after it. -/
theorem StoredAs.mono (h : StoredAs X snapshots st row) (hs : snapshots <+: snapshots') :
    StoredAs X snapshots' st row := by
  obtain ⟨hid, hreads, hfresh, before, hbefore, hseen⟩ := h
  exact ⟨hid, hreads, hfresh, before, hbefore.trans hs, hseen⟩

/-- Snapshots that were stored as some rows have the ids of the rows. -/
theorem map_id {stored : List Stored} {rows : List SnapshotRow}
    (h : List.Forall₂ (StoredAs X snapshots) stored rows) :
    stored.map (·.id) = rows.map (·.id) := by
  induction h with
  | nil => rfl
  | cons hrow _ ih => rw [List.map_cons, List.map_cons, ih, hrow.id_eq]

/-- What was fired can be recorded: the codes are known, and the predecessor is stored. -/
theorem StoredAs.of_mem (h : StoredAs X snapshots st row) {e : RecordedEvent}
    (he : e ∈ st.fired X) : e.noradCatId = row.noradCatId ∧
      e.event.eventTypeCode ∈ eventTypeCodes ∧ ∃ p ∈ snapshots, e.prevSnapshotId = some p.id := by
  obtain ⟨-, hreads, -, before, hbefore, hseen⟩ := h
  obtain ⟨-, hn, -⟩ := SnapshotRow.ofSnapshot_ok hreads
  unfold fired firedEvents at he
  split at he
  · cases he
  · next p hp =>
    obtain ⟨event, hevent, rfl⟩ := List.mem_map.1 he
    obtain ⟨prev, hprev, hid⟩ := List.mem_map.1 (getLastSnapshot_id hp)
    refine ⟨?_, snapshotEvents_codes _ _ event hevent, prev, hbefore.subset ?_, ?_⟩
    · rw [hn, st.record.noradCatId_eq]
    · exact List.mem_append_left _ (hseen.subset hprev)
    · rw [hid]

end

/-- No two of the events that were fired have one code. -/
theorem fired_nodup (X : Externals) (st : Stored) :
    ((st.fired X).map (·.event.eventTypeCode)).Nodup := by
  unfold fired firedEvents
  split
  · exact List.nodup_nil
  · rw [pairEvents, List.map_map]
    exact snapshotCodes_nodup _ _

end Stored

/-! ## Interleavings -/

namespace Workers

/-- The processes at work on one database. Besides where each of them is, the world keeps what it
had `seen` when it last selected, the snapshots that were `stored`, in their order and each with
what its process had seen, and those whose recording was `cut` by a call that did not go through. -/
structure World (ι : Type) where
  db : Database
  stages : ι → Stage
  seen : ι → Database
  stored : List Stored
  cut : List Nat

namespace World

/-- No process is in the loop. -/
def start (db : Database) : World ι := ⟨db, fun _ => .finished, fun _ => db, [], []⟩

/-- A process makes its next call. -/
def advance [DecidableEq ι] (X : Externals) (w : World ι) (i : ι) (call : Call) : World ι where
  db := ((w.stages i).advance X call w.db).2
  stages := Function.update w.stages i ((w.stages i).advance X call w.db).1
  seen := Function.update w.seen i ((w.stages i).sees (w.seen i) w.db)
  stored := w.stored ++ (w.stages i).stores X call (w.seen i) w.db
  cut := w.cut ++ (w.stages i).lost call

end World

section
variable {ι : Type}

/-- One of the active processes gets a response, or makes its next call in the loop; or another
transaction is committed. -/
inductive Step [DecidableEq ι] (X : Externals) (active : Set ι) : World ι → World ι → Prop
  | response {w : World ι} (i : ι) (hi : i ∈ active) (records : List GpRecord)
      (h : w.stages i = .finished) :
      Step X active w { w with stages := Function.update w.stages i (.todo records) }
  | call {w : World ι} (i : ι) (hi : i ∈ active) (call : Call) :
      Step X active w (w.advance X i call)
  | other {w : World ι} {db : Database} (h : OtherCommit X w.db db) :
      Step X active w { w with db }

/-- Any number of such steps. -/
abbrev Run [DecidableEq ι] (X : Externals) (active : Set ι) : World ι → World ι → Prop :=
  Relation.ReflTransGen (Step X active)

/-! ### The invariant -/

/-- What a process remembers is what it saw, and was there when it looked; what is left to record is
what was fired but for what is recorded. -/
def StageOk (X : Externals) (db : Database) (stored : List Stored) (seen : Database) :
    Stage → Prop
  | .todo _ => True
  | .selected r prev _ => prev = Sql.getLastSnapshot X r.object.noradCatId seen ∧
      seen.snapshots <+: db.snapshots ∧ prev.any (·.gpId = r.snapshot.gpId) = false
  | .recording n p q event events _ => ∃ st ∈ stored, st.id = q ∧
      st.fired X = eventsAt q db ++ pairEvents n p q (event :: events)

/-- What is recorded and what is left to record of the snapshots that were stored. -/
structure Inv (X : Externals) (w : World ι) : Prop where
  rows : List.Forall₂ (Stored.StoredAs X w.db.snapshots) w.stored w.db.snapshots
  recorded : ∀ st ∈ w.stored, eventsAt st.id w.db <+: st.fired X
  complete : ∀ st ∈ w.stored, st.id ∉ w.cut → (∀ i, ¬ (w.stages i).Records st.id) →
    eventsAt st.id w.db = st.fired X
  stages : ∀ i, StageOk X w.db w.stored (w.seen i) (w.stages i)
  apart : ∀ i j q, (w.stages i).Records q → (w.stages j).Records q → i = j

section
variable {X : Externals} {w : World ι}

/-- The tables have no snapshot yet, and no process is in the loop. -/
theorem Inv.start (X : Externals) {db : Database} (h : db.snapshots = []) :
    Inv X (World.start db : World ι) where
  rows := by
    show List.Forall₂ _ [] db.snapshots
    rw [h]
    exact .nil
  recorded := List.forall_mem_nil _
  complete := List.forall_mem_nil _
  stages _ := trivial
  apart _ _ _ h := h.elim

/-- The snapshots that were stored are the rows of the table, in their order. -/
theorem Inv.map_id (h : Inv X w) : w.stored.map (·.id) = w.db.snapshots.map (·.id) :=
  Stored.map_id h.rows

/-- Two snapshots that were stored under one id are one. -/
theorem Inv.eq_of_id (h : Inv X w) {st st' : Stored} (hst : st ∈ w.stored)
    (hst' : st' ∈ w.stored) (hid : st.id = st'.id) : st = st' := by
  refine List.inj_on_of_nodup_map ?_ hst hst' hid
  rw [h.map_id]
  exact w.db.snapshot_ids

/-- The row of a stored snapshot. -/
theorem Inv.row (h : Inv X w) {st : Stored} (hst : st ∈ w.stored) :
    ∃ row ∈ w.db.snapshots, Stored.StoredAs X w.db.snapshots st row := by
  obtain ⟨k, hk, rfl⟩ := List.getElem_of_mem hst
  have hlen := h.rows.length_eq
  exact ⟨_, List.getElem_mem (hlen ▸ hk), h.rows.get hk (hlen ▸ hk)⟩

/-- Whoever records the events of a snapshot, it was stored. -/
theorem Inv.mem_of_records (h : Inv X w) {i : ι} {q : Nat} (hr : (w.stages i).Records q) :
    q ∈ w.db.snapshots.map (·.id) := by
  have hok := h.stages i
  rw [← h.map_id]
  cases hst : w.stages i with
  | todo records =>
    rw [hst] at hr
    exact hr.elim
  | selected r prev rest =>
    rw [hst] at hr
    exact hr.elim
  | recording n p q' event events rest =>
    rw [hst] at hr hok
    obtain ⟨st, hmem, rfl, -⟩ := hok
    obtain rfl : st.id = q := hr
    exact List.mem_map_of_mem hmem

/-- Work that stores nothing and records nothing of a snapshot leaves a process right about what it
remembers. -/
theorem StageOk.quiet {db db' seen : Database} {stored : List Stored} {stage : Stage}
    (h : StageOk X db stored seen stage) (hq : Quiet db db') :
    StageOk X db' stored seen stage := by
  cases stage with
  | todo records => trivial
  | selected r prev rest =>
    obtain ⟨hprev, hseen, hany⟩ := h
    exact ⟨hprev, hq.snapshots ▸ hseen, hany⟩
  | recording n p q event events rest =>
    obtain ⟨st, hst, hid, hleft⟩ := h
    refine ⟨st, hst, hid, ?_⟩
    rwa [hq.recorded]

/-- The transactions of the other services keep the invariant. -/
theorem Inv.other (h : Inv X w) {db : Database} (hq : Quiet w.db db) :
    Inv X { w with db } where
  rows := by
    show List.Forall₂ (Stored.StoredAs X db.snapshots) w.stored db.snapshots
    rw [hq.snapshots]
    exact h.rows
  recorded st hst := by
    rw [hq.recorded]
    exact h.recorded st hst
  complete st hst hcut hnone := by
    rw [hq.recorded]
    exact h.complete st hst hcut hnone
  stages i := (h.stages i).quiet hq
  apart := h.apart

variable [DecidableEq ι]

/-- The stage of a process after another one has moved. -/
theorem update_cases {P : ι → Stage → Prop} {stages : ι → Stage} {i : ι} {stage : Stage}
    (hi : P i stage) (hj : ∀ j, j ≠ i → P j (stages j)) (j : ι) :
    P j (Function.update stages i stage j) := by
  by_cases hij : j = i
  · subst hij
    rwa [Function.update_self]
  · rw [Function.update_of_ne hij]
    exact hj j hij

/-- When nobody records the events of a snapshot after a process has moved, and that process did not
before, nobody did. -/
theorem not_records_of_update {stages : ι → Stage} {i : ι} {stage : Stage} {q : Nat}
    (hi : ¬ (stages i).Records q) (hnone : ∀ j, ¬ (Function.update stages i stage j).Records q) :
    ∀ j, ¬ (stages j).Records q := by
  intro j hj
  by_cases hij : j = i
  · exact hi (hij ▸ hj)
  · refine hnone j ?_
    rwa [Function.update_of_ne hij]

/-- What the other processes have seen stays, and so what they remember is right. -/
theorem Inv.stages_update (h : Inv X w) {i : ι} {stage : Stage} {seen : Database}
    {db : Database} {stored : List Stored} (hi : StageOk X db stored seen stage)
    (hj : ∀ j, j ≠ i → StageOk X w.db w.stored (w.seen j) (w.stages j) →
      StageOk X db stored (w.seen j) (w.stages j)) (j : ι) :
    StageOk X db stored (Function.update w.seen i seen j) (Function.update w.stages i stage j) := by
  refine update_cases (P := fun j st => StageOk X db stored (Function.update w.seen i seen j) st)
    ?_ (fun j hij => ?_) j
  · rwa [Function.update_self]
  · rw [Function.update_of_ne hij]
    exact hj j hij (h.stages j)

/-- A process goes on to a stage where it records nothing, and what it leaves unrecorded is cut. -/
theorem Inv.leave (h : Inv X w) {i : ι} {stage : Stage} {seen : Database} {cut : List Nat}
    (hcut : w.cut ⊆ cut) (hlost : ∀ q, (w.stages i).Records q → q ∈ cut)
    (hnew : ∀ q, ¬ stage.Records q) (hok : StageOk X w.db w.stored seen stage) :
    Inv X ⟨w.db, Function.update w.stages i stage, Function.update w.seen i seen, w.stored,
      cut⟩ where
  rows := h.rows
  recorded := h.recorded
  complete st hst hstcut hnone :=
    h.complete st hst (fun hmem => hstcut (hcut hmem))
      (not_records_of_update (fun hi => hstcut (hlost _ hi)) hnone)
  stages := h.stages_update hok fun _ _ => id
  apart j k q hj hk := by
    have hold : ∀ j, (Function.update w.stages i stage j).Records q → (w.stages j).Records q :=
      update_cases (P := fun j st => st.Records q → (w.stages j).Records q)
        (fun hq => absurd hq (hnew q)) fun _ _ => id
    exact h.apart j k q (hold j hj) (hold k hk)

/-! ### A snapshot is inserted -/

/-- A process that goes on with a pair records the events of its snapshot only. -/
theorem records_record {n : Int} {p q k : Nat} {rest : List GpRecord}
    {events : List DetectedEvent} (h : (Stage.record n p q rest events).Records k) : q = k := by
  cases events with
  | nil => exact h.elim
  | cons event events => exact h

/-- A process that does not go on to record has no events left. -/
theorem eq_nil_of_not_records {n : Int} {p q : Nat} {rest : List GpRecord}
    {events : List DetectedEvent} (h : ¬ (Stage.record n p q rest events).Records q) :
    events = [] := by
  cases events with
  | nil => rfl
  | cons event events => exact absurd rfl h

/-- A process is right to go on with the events of a pair that are not recorded yet. -/
theorem StageOk.record {db seen : Database} {stored : List Stored} {n : Int} {p : Nat}
    {rest : List GpRecord} {events : List DetectedEvent} {st : Stored} (hst : st ∈ stored)
    (h : st.fired X = eventsAt st.id db ++ pairEvents n p st.id events) :
    StageOk X db stored seen (Stage.record n p st.id rest events) := by
  cases events with
  | nil => trivial
  | cons event events => exact ⟨st, hst, rfl, h⟩

/-- A row is converted the same way once more. -/
theorem ofSnapshot_again {id : Nat} {now : Timestamp} {snap : Snapshot} {row : SnapshotRow}
    (h : SnapshotRow.ofSnapshot X id now snap = .ok row) :
    SnapshotRow.ofSnapshot X row.id row.fetchedAt snap = .ok row := by
  rw [SnapshotRow.ofSnapshot_eq] at h ⊢
  cases h₀ : SnapshotRow.ofSnapshot X 0 0 snap with
  | error e =>
    rw [h₀] at h
    cases h
  | ok row₀ =>
    rw [h₀] at h
    cases h
    rfl

/-- An insert leaves the other processes right about what they remember. -/
theorem StageOk.addSnapshot {db seen : Database} {row : SnapshotRow} {stage : Stage}
    {stored : List Stored} (h : StageOk X db stored seen stage) (ha : db.SnapshotAllowed row)
    (st : Stored) : StageOk X (db.addSnapshot row ha) (stored ++ [st]) seen stage := by
  cases stage with
  | todo records => trivial
  | selected r prev rest =>
    obtain ⟨hprev, hseen, hany⟩ := h
    exact ⟨hprev, hseen.trans (List.prefix_append _ _), hany⟩
  | recording n p q event events rest =>
    obtain ⟨st', hst', hid, hleft⟩ := h
    exact ⟨st', List.mem_append_left _ hst', hid, hleft⟩

/-- A process that inserted a snapshot goes on with what the rules fire for it. -/
theorem exists_inserted (st : Stored) (rest : List GpRecord) : ∃ n p events,
    Stage.inserted st.record (Sql.getLastSnapshot X st.record.object.noradCatId st.seen) rest
        st.id = Stage.record n p st.id rest events ∧
      st.fired X = pairEvents n p st.id events := by
  unfold Stored.fired firedEvents Stage.inserted
  cases Sql.getLastSnapshot X st.record.object.noradCatId st.seen with
  | none => exact ⟨0, 0, [], rfl, rfl⟩
  | some p => exact ⟨_, p.id, _, rfl, rfl⟩

/-- A process goes on to record what the rules fired for the snapshot that it inserted. -/
theorem Inv.addSnapshot (h : Inv X w) {i : ι} (hi : ∀ q, ¬ (w.stages i).Records q)
    {row : SnapshotRow} (ha : w.db.SnapshotAllowed row) {st : Stored} {n : Int} {p : Nat}
    {events : List DetectedEvent} (rest : List GpRecord)
    (has : Stored.StoredAs X (w.db.snapshots ++ [row]) st row)
    (hfired : st.fired X = pairEvents n p st.id events) :
    Inv X ⟨w.db.addSnapshot row ha, Function.update w.stages i (Stage.record n p st.id rest events),
      Function.update w.seen i (w.seen i), w.stored ++ [st], w.cut⟩ := by
  have hid : row.id = st.id := has.id_eq
  have hfresh : st.id ∉ w.db.snapshots.map (·.id) := hid ▸ ha.1
  have hnil : eventsAt st.id (w.db.addSnapshot row ha) = [] := @eventsAt_eq_nil st.id w.db hfresh
  refine ⟨?_, ?_, ?_, ?_, ?_⟩
  · refine List.rel_append (h.rows.imp fun _ _ hrow => hrow.mono ?_) (.cons has .nil)
    exact List.prefix_append _ _
  · refine List.forall_mem_append.2 ⟨h.recorded, List.forall_mem_singleton.2 ?_⟩
    rw [hnil]
    exact List.nil_prefix
  · refine List.forall_mem_append.2 ⟨fun st' hst' hcut hnone => ?_,
      List.forall_mem_singleton.2 fun hcut hnone => ?_⟩
    · exact h.complete st' hst' hcut (not_records_of_update (hi st'.id) hnone)
    · have hnone' : ¬ (Function.update w.stages i _ i).Records st.id := hnone i
      rw [Function.update_self] at hnone'
      rw [hnil, hfired, eq_nil_of_not_records hnone']
      rfl
  · refine h.stages_update (StageOk.record (List.mem_append_right _ (.head _)) ?_)
      fun j _ hj => hj.addSnapshot ha st
    rw [hnil, hfired]
    rfl
  · -- nobody else records the events of a snapshot that is new
    have hother : ∀ j q,
        (Function.update w.stages i (Stage.record n p st.id rest events) j).Records q →
          (j = i ∧ q = st.id) ∨ ((w.stages j).Records q ∧ q ≠ st.id) := by
      intro j q
      refine update_cases (P := fun j stage => stage.Records q →
        (j = i ∧ q = st.id) ∨ ((w.stages j).Records q ∧ q ≠ st.id)) ?_ (fun j _ hj => ?_) j
      · exact fun hq => .inl ⟨rfl, (records_record hq).symm⟩
      · refine .inr ⟨hj, ?_⟩
        rintro rfl
        exact hfresh (h.mem_of_records hj)
    intro j k q hj hk
    rcases hother j q hj with ⟨rfl, hq⟩ | ⟨hj, hq⟩ <;>
      rcases hother k q hk with ⟨rfl, hq'⟩ | ⟨hk, hq'⟩
    · rfl
    · exact absurd hq hq'
    · exact absurd hq' hq
    · exact h.apart j k q hj hk

/-! ### An event is recorded -/

omit [DecidableEq ι] in
/-- The event that a process records next is one that the rules fired. -/
theorem Inv.eventAllowed (h : Inv X w) {n : Int} {p q : Nat} {event : DetectedEvent}
    {events : List DetectedEvent} {rest : List GpRecord} {seen : Database}
    (hok : StageOk X w.db w.stored seen (.recording n p q event events rest)) (call : Call) :
    w.db.EventAllowed (Sql.eventRow call n event (some p) (some q) w.db) := by
  obtain ⟨st, hst, rfl, hleft⟩ := hok
  obtain ⟨row, hrow, has⟩ := h.row hst
  have hmem : (⟨n, event, some p, some st.id⟩ : RecordedEvent) ∈ st.fired X := by
    rw [hleft]
    exact List.mem_append_right _ (.head _)
  obtain ⟨hn, hcode, prev, hprev, hp⟩ := has.of_mem hmem
  refine ⟨?_, hcode, fun k hk => ?_, fun k hk => ?_⟩
  · show n ∈ w.db.objects.keys
    rw [show n = row.noradCatId from hn]
    exact w.db.snapshot_objects row hrow
  · cases hk
    cases hp
    exact List.mem_map_of_mem hprev
  · cases hk
    rw [← has.id_eq]
    exact List.mem_map_of_mem hrow

omit [DecidableEq ι] in
/-- The event of a snapshot leaves those right who record the events of others. -/
theorem StageOk.addEvent {db seen : Database} {stored : List Stored} {stage : Stage}
    (h : StageOk X db stored seen stage) {call : Call} {n : Int} {p q : Nat}
    {event : DetectedEvent} (hq : ¬ stage.Records q)
    (ha : db.EventAllowed (Sql.eventRow call n event (some p) (some q) db)) :
    StageOk X (db.addEvent _ ha) stored seen stage := by
  cases stage with
  | todo records => trivial
  | selected r prev rest => exact h
  | recording n' p' q' event' events' rest' =>
    obtain ⟨st, hst, hid, hleft⟩ := h
    refine ⟨st, hst, hid, ?_⟩
    rw [eventsAt_addEvent, if_neg (Ne.symm hq), List.append_nil]
    exact hleft

/-- One more of the events that were fired is recorded, and the process goes on with the rest. -/
theorem Inv.addEvent (h : Inv X w) {i : ι} {n : Int} {p q : Nat} {event : DetectedEvent}
    {events : List DetectedEvent} {rest : List GpRecord} {call : Call}
    (hstage : w.stages i = .recording n p q event events rest)
    (ha : w.db.EventAllowed (Sql.eventRow call n event (some p) (some q) w.db)) :
    Inv X ⟨w.db.addEvent _ ha, Function.update w.stages i (Stage.record n p q rest events),
      Function.update w.seen i (w.seen i), w.stored, w.cut⟩ := by
  have hok := h.stages i
  rw [hstage] at hok
  obtain ⟨st, hst, rfl, hleft⟩ := hok
  have hi : (w.stages i).Records st.id := by
    rw [hstage]
    rfl
  have hnext : st.fired X =
      eventsAt st.id (w.db.addEvent _ ha) ++ pairEvents n p st.id events := by
    rw [eventsAt_addEvent, if_pos rfl, List.append_assoc]
    exact hleft
  have hsame : ∀ k, st.id ≠ k → eventsAt k (w.db.addEvent _ ha) = eventsAt k w.db := by
    intro k hk
    rw [eventsAt_addEvent, if_neg hk, List.append_nil]
  have hold : ∀ j k,
      (Function.update w.stages i (Stage.record n p st.id rest events) j).Records k →
        (w.stages j).Records k := fun j k =>
    update_cases (P := fun j stage => stage.Records k → (w.stages j).Records k)
      (fun hk => records_record hk ▸ hi) (fun _ _ => id) j
  refine ⟨h.rows, fun st' hst' => ?_, fun st' hst' hcut hnone => ?_, ?_,
    fun j k l hj hk => h.apart j k l (hold j l hj) (hold k l hk)⟩
  · by_cases hk : st.id = st'.id
    · rw [← h.eq_of_id hst hst' hk, hnext]
      exact List.prefix_append _ _
    · rw [hsame st'.id hk]
      exact h.recorded st' hst'
  · by_cases hk : st.id = st'.id
    · have hnone' : ¬ (Function.update w.stages i _ i).Records st'.id := hnone i
      rw [Function.update_self, ← hk] at hnone'
      rw [← h.eq_of_id hst hst' hk, hnext, eq_nil_of_not_records hnone']
      exact (List.append_nil _).symm
    · rw [hsame st'.id hk]
      refine h.complete st' hst' hcut (not_records_of_update (fun hi' => hk ?_) hnone)
      rwa [hstage] at hi'
  · -- no other process records the events of this snapshot
    exact h.stages_update (.record hst hnext) fun j hj hjok =>
      hjok.addEvent (fun hq => hj (h.apart j i st.id hq hi)) ha

/-! ### Runs -/

/-- A call in the loop keeps the invariant, whatever it ends in. -/
theorem Inv.call (h : Inv X w) (i : ι) (call : Call) {stage : Stage} {db : Database}
    {stored : List Stored}
    (hstep : StageStep X call (w.seen i) (w.stages i) w.db stage db stored) : Inv X
      ⟨db, Function.update w.stages i stage,
        Function.update w.seen i ((w.stages i).sees (w.seen i) w.db), w.stored ++ stored,
        w.cut ++ (w.stages i).lost call⟩ := by
  generalize hst : w.stages i = old at hstep
  generalize hdb : w.db = before at hstep
  cases hstep with
  | pass db rest hnone =>
    subst hdb
    rw [← hst] at hnone ⊢
    rw [List.append_nil]
    exact h.leave (List.subset_append_left _ _) (fun q hq => absurd hq (hnone q)) (fun _ => id)
      trivial
  | select r rest db hany =>
    subst hdb
    have hnone : ∀ q, ¬ (w.stages i).Records q := fun q hq => (hst ▸ hq :)
    rw [← hst, List.append_nil]
    refine h.leave (List.subset_append_left _ _) (fun q hq => absurd hq (hnone q)) (fun _ => id) ?_
    rw [hst]
    exact ⟨rfl, List.prefix_refl _, hany⟩
  | insert r prev rest hrow ha =>
    subst hdb
    have hok := h.stages i
    rw [hst] at hok
    obtain ⟨rfl, hseen, hany⟩ := hok
    obtain ⟨n, p, events, hnext, hfired⟩ := @exists_inserted X ⟨_, r, w.seen i⟩ rest
    rw [Stage.lost, List.append_nil, Stage.sees]
    dsimp only at hnext
    rw [hnext]
    have hstored : Stored.StoredAs X (w.db.snapshots ++ [_]) ⟨_, r, w.seen i⟩ _ :=
      ⟨rfl, ofSnapshot_again hrow, hany, w.db.snapshots, List.prefix_refl _, hseen⟩
    exact h.addSnapshot (fun q hq => (hst ▸ hq :)) ha rest hstored hfired
  | record n p q event events rest ha hf =>
    subst hdb
    rw [Stage.lost, if_pos hf, List.append_nil, List.append_nil, Stage.sees]
    exact h.addEvent hst ha
  | lose n p q event events rest rest' db hfault =>
    subst hdb
    have hok := h.stages i
    rw [hst] at hok
    rw [Stage.lost, if_neg (hfault (h.eventAllowed hok call)), List.append_nil, Stage.sees]
    refine h.leave (List.subset_append_left _ _) (fun k hk => ?_) (fun _ => id) trivial
    rw [hst] at hk
    exact List.mem_append_right _ (List.mem_singleton.2 (Eq.symm hk))

/-- Every step keeps the invariant. -/
theorem Inv.step {active : Set ι} {w' : World ι} (h : Inv X w) (hstep : Step X active w w') :
    Inv X w' := by
  cases hstep with
  | response i hi records hover =>
    have hleave : Inv X ⟨w.db, Function.update w.stages i (.todo records),
        Function.update w.seen i (w.seen i), w.stored, w.cut⟩ := by
      refine h.leave (List.Subset.refl _) (fun q hq => ?_) (fun _ => id) trivial
      rw [hover] at hq
      exact hq.elim
    rwa [Function.update_eq_self] at hleave
  | call i hi call => exact h.call i call (advance_step X call (w.seen i) w.db (w.stages i))
  | other hother => exact h.other hother.quiet

/-- Every run keeps the invariant. -/
theorem Inv.run {active : Set ι} {w' : World ι} (h : Inv X w) (hrun : Run X active w w') :
    Inv X w' := by
  induction hrun with
  | refl => exact h
  | tail _ hstep ih => exact ih.step hstep

end

/-! ### One process among the others -/

/-- A process that is alone makes its calls among others that wait. -/
theorem Run.alone [DecidableEq ι] {X : Externals} {env : Nat → Call} {w : World ι} {i : ι}
    {used : Nat} {last : Nat × Stage × Database}
    (h : Alone X env (used, w.stages i, w.db) last) : ∃ w', Run X {i} w w' ∧
      w'.db = last.2.2 ∧ w'.stages = Function.update w.stages i last.2.1 := by
  induction h with
  | refl => exact ⟨w, .refl, rfl, (Function.update_eq_self i w.stages).symm⟩
  | tail _ hstep ih =>
    obtain ⟨w', hrun, hdb, hstages⟩ := ih
    cases hstep with
    | call used stage db =>
      have hi : w'.stages i = stage := by
        rw [hstages]
        exact Function.update_self i stage w.stages
      refine ⟨w'.advance X i (env used), hrun.tail (.call i (Set.mem_singleton i) (env used)),
        ?_, ?_⟩
      · show ((w'.stages i).advance X (env used) w'.db).2 = _
        rw [hi, hdb]
      · show Function.update w'.stages i ((w'.stages i).advance X (env used) w'.db).1 = _
        rw [hi, hdb, hstages]
        exact Function.update_idem _ _ _

/-- Whatever the other processes are at, this one can do this on its own when it is not in the
loop, and is not in the loop then. -/
def Doable (X : Externals) [DecidableEq ι] (i : ι) (db db' : Database) : Prop :=
  ∀ w : World ι, w.db = db → w.stages i = .finished →
    ∃ w', Run X {i} w w' ∧ w'.db = db' ∧ w'.stages = w.stages

section
variable [DecidableEq ι] (X : Externals) (i : ι)

/-- Doing nothing is something that every process can do. -/
instance : Std.Refl (Doable X i) := ⟨fun _ w hdb _ => ⟨w, .refl, hdb, rfl⟩⟩

/-- What can be done in a row can be done by a process on its own. -/
instance : IsTrans Database (Doable X i) where
  trans _ _ _ h h' w hdb hover := by
    obtain ⟨w', hrun, hdb', hstages⟩ := h w hdb hover
    obtain ⟨w'', hrun', hdb'', hstages'⟩ := h' w' hdb' (hstages ▸ hover)
    exact ⟨w'', hrun.trans hrun', hdb'', hstages'.trans hstages⟩

/-- What is committed outside of the loop takes no call in it. -/
theorem doable_other {db db' : Database} (h : OtherCommit X db db') : Doable X i db db' := by
  rintro w rfl hover
  exact ⟨{ w with db := db' }, .single (.other h), rfl, rfl⟩

/-- The loop of a response is done by the calls of one process. -/
theorem processRecords_doable (records : List GpRecord) :
    Proc.Within (OnDb (Doable X i)) (Proc.forEach (GpPoller.processRecord X) records) := by
  intro s
  have hwithin := processRecords_within X records s
  refine ⟨fun w hdb hover => ?_, hwithin.env, hwithin.used, hwithin.sent⟩
  have hresponse : Step X {i} w { w with stages := Function.update w.stages i (.todo records) } :=
    .response i (Set.mem_singleton i) records hover
  have halone := processRecords_alone X records s
  rw [← hdb, ← Function.update_self i (Stage.todo records) w.stages] at halone
  obtain ⟨w', hrun, hdb', hstages⟩ := Run.alone
    (w := { w with stages := Function.update w.stages i (.todo records) }) halone
  refine ⟨w', .head hresponse hrun, hdb', ?_⟩
  rw [hstages, Function.update_idem, ← hover, Function.update_eq_self]

/-- A GP response is the loop and then the move of the cursor. -/
theorem gp_processResponse_doable (rotationTargetIds : List Int) (body : String) :
    Proc.Within (OnDb (Doable X i)) (GpPoller.processResponse X rotationTargetIds body) := by
  refine (Proc.Within.ofExcept _).bind fun records =>
    (modify_onDb fun _ => by exact ⟨rfl, rfl, rfl, rfl⟩).bind fun _ =>
      (processRecords_doable X i records).bind fun _ => ?_
  unfold GpPoller.advanceCursor
  split
  · exact transaction_onDb fun call db a db' h => doable_other X i (.cursor (map_unit_ok.1 h))
  · exact .pure _

/-- The GP part of `main` reads its targets and works off their response. -/
theorem runGp_doable : Proc.Within (OnRun (Doable X i)) (runGp X) := by
  refine (onRun (query_onDb _)).bind fun hot => (onRun (query_onDb _)).bind fun rot => ?_
  exact run_onRun (p := gpPoller X hot rot) (gp_processResponse_doable X i rot)

end

/-- Every cron invocation, in whatever environment, is one of the runs, and one in which no other
process gets a response or makes a call: the others wait where they are. -/
theorem main_among_runs (X : Externals) [DecidableEq ι] {w : World ι} {i : ι}
    (hover : w.stages i = .finished) {s : Session} (hs : s.db = w.db) :
    ∃ w', Run X {i} w w' ∧ w'.db = (main X s).2.db ∧ w'.stages = w.stages := by
  have hmain : Proc.Within (OnRun (Doable X i)) (main X) :=
    main_onRun (fun pollerName now db => doable_other X i (.stamp pollerName now))
      (satcat_processResponse_within X fun _ _ _ _ _ h => doable_other X i (.batch h))
      (runGp_doable X i)
  exact (hmain s).db w hs.symm hover

/-! ### What is kept -/

/-- A run is a sequence of commits. -/
theorem Run.commits [DecidableEq ι] {X : Externals} {active : Set ι} {w w' : World ι}
    (h : Run X active w w') : Commits X w.db w'.db := by
  induction h with
  | refl => exact .refl
  | @tail w' _ _ hstep ih =>
    refine ih.trans ?_
    cases hstep with
    | response i hi records hover => exact .refl
    | call i hi call => exact (advance_step X call (w'.seen i) _ _).commits
    | other hother => exact .single hother.commit

/-- In every run, whatever was stored stays: the rows of the history as they are and in their order,
and every object with the columns that no poller writes and with its hits. -/
theorem nothing_lost [DecidableEq ι] {X : Externals} {active : Set ι} {w w' : World ι}
    (h : Run X active w w') : w.db.Grows w'.db :=
  Commits.grows h.commits

/-! ### Any interleaving -/

/-- What is recorded of a snapshot, in terms of what the process that stored it had seen: its events
are, in order, a prefix of what the rules fire for it and the last snapshot of its object that was
seen, all of that unless the recording was cut or is still going on, and each type of event once. -/
structure Recorded (X : Externals) (w : World ι) (st : Stored) (row : SnapshotRow) : Prop where
  storedAs : Stored.StoredAs X w.db.snapshots st row
  recorded : eventsAt row.id w.db <+: st.fired X
  complete : row.id ∉ w.cut → (∀ i, ¬ (w.stages i).Records row.id) →
    eventsAt row.id w.db = st.fired X
  once : ((eventsAt row.id w.db).map (·.event.eventTypeCode)).Nodup

/-- The rows of `snapshots` are those that were stored, and every one of them has what was recorded
of it. -/
def World.AllRecorded (X : Externals) (w : World ι) : Prop :=
  List.Forall₂ (Recorded X w) w.stored w.db.snapshots

/-- Whatever processes are at work, wherever they fail or stop and however their transactions come:
the events of a snapshot are what the rules fire for it and the last snapshot of its object in the
tables that its process had selected from, in their order, up to a call that did not go through, and
none of them is there twice. -/
theorem events_recorded_once {X : Externals} [DecidableEq ι] {active : Set ι} {db : Database}
    {w : World ι} (hempty : db.snapshots = []) (h : Run X active (.start db) w) :
    w.AllRecorded X := by
  have hinv : Inv X w := (Inv.start X hempty).run h
  have hrows := (List.forall₂_and_left (p := (· ∈ w.stored)) _ _).2 ⟨fun _ => id, hinv.rows⟩
  refine hrows.imp fun st row ⟨hst, has⟩ => ?_
  have hid : row.id = st.id := has.id_eq
  have hfirst := hinv.recorded st hst
  refine ⟨has, hid ▸ hfirst, fun hcut hnone => ?_, ?_⟩
  · rw [hid] at hcut ⊢
    exact hinv.complete st hst hcut fun i => hid ▸ hnone i
  · rw [hid]
    exact (st.fired_nodup X).sublist (hfirst.sublist.map _)

end

end Workers

namespace WorkersFixture

open Workers RedeliveryFixture

/-- Two processes get the first element set, and each one of its successors. -/
def responses (gpId : Int) : List GpRecord :=
  [record 100 "2026-08-22" 10, record gpId "2026-08-23" 11]

/-- The first element set is stored by the one process and found by the other. Both compare its
successors with it before they insert them. -/
def order : List Bool := [true, true, false, true, false, true, false, true, false]

/-- Both processes have their responses and have made no call yet. -/
def begun : Workers.World Bool :=
  { (World.start before : Workers.World Bool) with
    stages := Function.update
      (Function.update (fun _ => .finished) true (.todo (responses 101))) false
      (.todo (responses 102)) }

/-- Both processes get their responses at some time. -/
theorem begun_run : Workers.Run externals Set.univ (.start before) begun :=
  .tail (.single (.response true (Set.mem_univ _) _ rfl)) (.response false (Set.mem_univ _) _ rfl)

/-- The processes make their calls in this order, and none of them fails. -/
def calls (w : Workers.World Bool) (order : List Bool) : Workers.World Bool :=
  order.foldl (fun w i => w.advance externals i (calmEnv 0 response 0)) w

/-- The calls of such an order are a run of the machine. -/
theorem calls_run (w : Workers.World Bool) (order : List Bool) :
    Workers.Run externals Set.univ w (calls w order) := by
  induction order generalizing w with
  | nil => exact .refl
  | cons i order ih => exact .head (.call i (Set.mem_univ i) (calmEnv 0 response 0)) (ih _)

-- both successors were compared with the first element set, also the one that was stored last
example : (calls begun order).db.audtEvents.map
    (fun e => (e.prevSnapshotId, e.newSnapshotId)) = [(some 1, some 2), (some 1, some 3)] ∧
    (calls begun order).stored.map (fun st => (st.id, st.seen.snapshots.map (·.id))) =
      [(1, []), (2, [1]), (3, [1])] := by
  decide +kernel

end WorkersFixture

open Workers WorkersFixture in
/-- No row is lost in the interleaved run. -/
theorem nothing_lost_twice : begun.db.Grows (calls begun order).db :=
  nothing_lost (calls_run begun order)

open Workers WorkersFixture in
/-- The invocation of one process among two, of which the other makes no call. -/
theorem main_among_runs_start : ∃ w', Workers.Run RedeliveryFixture.externals {true}
    (Workers.World.start RedeliveryFixture.before : Workers.World Bool) w' ∧
    w'.db = (main RedeliveryFixture.externals RedeliveryFixture.start).2.db ∧
    w'.stages = fun _ => .finished :=
  main_among_runs RedeliveryFixture.externals rfl rfl

open Workers WorkersFixture in
/-- In the interleaved run three snapshots are stored, with the events of two of them recorded once.
-/
theorem events_recorded_once_twice :
    (calls begun order).AllRecorded RedeliveryFixture.externals :=
  @events_recorded_once Bool _ _ _ RedeliveryFixture.before _ rfl
    (begun_run.trans (calls_run begun order))

end VitaleBackend
