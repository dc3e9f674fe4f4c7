import VitaleBackend.Poller.Replay

/-!
# The precondition of the rules

`rule.hpp` asks that `prev` and `curr` are consecutive element sets of one object, `prev` the
earlier one. `process_response` takes for `prev` the stored snapshot that is last by epoch and never
compares it with the record, so that the precondition holds of a call exactly when the record is
later than everything stored of its object (`consecutive_iff`).
-/

namespace VitaleBackend

open Process Relational

/-- Postgres reads the text that it prints for a time as that time. -/
def PrintsTimes (X : Externals) : Prop :=
  ∀ text t, X.timestampIn text = some t → X.timestampIn (X.timestampOut t) = some t

/-- The precondition of a rule, the epochs compared as instants. -/
structure Consecutive (X : Externals) (prev curr : Snapshot) : Prop where
  noradCatId : prev.noradCatId = curr.noradCatId
  epoch : ∃ t u, X.timestampIn prev.epoch = some t ∧ X.timestampIn curr.epoch = some u ∧ t < u

/-! ## The epochs in the tables -/

/-- Every stored epoch was read from a text. -/
def EpochsRead (X : Externals) (db : Database) : Prop :=
  ∀ row ∈ db.snapshots, ∃ text, X.timestampIn text = some row.epoch

/-- A commit other than that of a snapshot leaves the snapshots alone. -/
theorem Commit.epochsRead {X : Externals} {db db' : Database} (h : Commit X db db')
    (he : EpochsRead X db) : EpochsRead X db' := by
  cases h with
  | batch hbatch =>
    have hsame : db'.snapshots = db.snapshots :=
      upsertObjectsFromSatcat_preserves (P := fun db' => db'.snapshots = db.snapshots)
        (fun _ _ _ _ hrow hs => hrow.snapshots.trans hs) hbatch rfl
    rw [EpochsRead, hsame]
    exact he
  | snapshot hsnap =>
    obtain ⟨row, hrow, -, ha, rfl⟩ := Sql.insertSnapshot_ok.1 hsnap
    refine List.forall_mem_append.2 ⟨he, List.forall_mem_singleton.2 ?_⟩
    exact ⟨_, SnapshotRow.ofSnapshot_epoch hrow⟩
  | event hevent =>
    obtain ⟨ha, rfl⟩ := Sql.insertEvent_ok.1 hevent
    exact he
  | stamp pollerName now => exact he
  | cursor hcursor =>
    obtain ⟨-, rfl⟩ := Sql.advanceGpRotationCursor_ok.1 hcursor
    exact he
  | hit noradCatId => exact he

/-- In reachable tables every stored epoch was read from a text, as there is no other way into the
column. -/
theorem Reachable.epochsRead {X : Externals} {db : Database} (h : Reachable X db) :
    EpochsRead X db :=
  h.induction (List.forall_mem_nil _) fun _ _ => Commit.epochsRead

/-! ## One call -/

section
variable {X : Externals} {r : GpRecord} {s : Session} {row : SnapshotRow} {p : Snapshot}

/-- Everything stored of the record's object is earlier than the record. -/
def ArrivesLast (X : Externals) (rows : List SnapshotRow) (r : GpRecord) : Prop :=
  ∀ b ∈ rows, b.noradCatId = r.object.noradCatId → ∀ t ∈ X.timestampIn r.snapshot.epoch, b.epoch < t

/-- The precondition holds of the pair that a stored record makes exactly when the record is later
than everything stored of its object. -/
theorem consecutive_pair (hX : PrintsTimes X) (hread : EpochsRead X s.db) (h : Stores X r s row)
    (hp : Sql.getLastSnapshot X r.object.noradCatId s.db = some p) :
    Consecutive X p r.snapshot ↔ ArrivesLast X s.db.snapshots r := by
  obtain ⟨o, m, -, hm, rfl⟩ := selectLast_some hp
  obtain ⟨hmem, hn⟩ := mem_of_lastSnapshotRow hm
  obtain ⟨text, htext⟩ := hread m hmem
  -- the predecessor is read back with the epoch that is stored
  have hback : X.timestampIn (X.timestampOut m.epoch) = some m.epoch := hX text _ htext
  have hcurr : X.timestampIn r.snapshot.epoch = some row.epoch :=
    SnapshotRow.ofSnapshot_epoch h.columns
  refine ⟨fun hc b hb hbn t ht => ?_, fun hlast => ⟨?_, m.epoch, row.epoch, hback, hcurr, ?_⟩⟩
  · obtain ⟨u, v, hu, hv, hlt⟩ := hc.epoch
    cases hback.symm.trans hu
    cases ht.symm.trans hv
    exact (lastSnapshotRow_le hm b hb hbn).trans_lt hlt
  · exact hn.trans r.noradCatId_eq.symm
  · exact hlast m hmem hn row.epoch hcurr

end

/-! ## Sequences of responses -/

/-- A GP response: what happens to the process that handles it, its rotation targets, and the
body. -/
structure GpDelivery where
  env : Nat → Call
  rotationTargetIds : List Int
  jsonBody : String

namespace GpDelivery

/-- The process that handles the response. -/
def start (db : Database) (d : GpDelivery) : Session := .start db d.env

/-- The tables after it. -/
def deliver (X : Externals) (db : Database) (d : GpDelivery) : Database :=
  (GpPoller.processResponse X d.rotationTargetIds d.jsonBody (d.start db)).2.db

end GpDelivery

/-- `evaluate_all` is called on a pair when a process handles a response. -/
def Evaluates (X : Externals) (body : String) (s : Session) (prev curr : Snapshot) : Prop :=
  ∃ r t row, StoredAtTurn X body s r t row prev ∧ curr = r.snapshot

/-- In a sequence of responses every call of `evaluate_all` has its precondition. -/
def AllConsecutive (X : Externals) : Database → List GpDelivery → Prop
  | _, [] => True
  | db, d :: ds => (∀ prev curr, Evaluates X d.jsonBody (d.start db) prev curr →
      Consecutive X prev curr) ∧ AllConsecutive X (d.deliver X db) ds

/-- In a sequence of responses every record that is stored behind a predecessor is later than
everything stored of its object. -/
def ArriveInOrder (X : Externals) : Database → List GpDelivery → Prop
  | _, [] => True
  | db, d :: ds => (∀ r t row prev, StoredAtTurn X d.jsonBody (d.start db) r t row prev →
      ArrivesLast X t.db.snapshots r) ∧ ArriveInOrder X (d.deliver X db) ds

/-- The precondition of the rules always holds. -/
def RulePrecondition (X : Externals) : Prop :=
  ∀ db ds, Reachable X db → AllConsecutive X db ds

section
variable {X : Externals}

/-- The tables at the turn of a record are reachable. -/
theorem StoredAtTurn.reachable {body : String} {s t : Session} {r : GpRecord} {row : SnapshotRow}
    {p : Snapshot} (h : StoredAtTurn X body s r t row p) (hs : Reachable X s.db) :
    Reachable X t.db := by
  obtain ⟨pre, post, -, hpre⟩ := h.turn
  have hcommits := (processRecords_onDb (commits_frame X).toRecordFrame pre
    { s with counts := {} }).db
  rw [hpre] at hcommits
  exact Relation.ReflTransGen.trans hs hcommits

/-- The calls of one response. -/
theorem consecutive_response (hX : PrintsTimes X) {body : String} {s : Session}
    (hs : Reachable X s.db) :
    (∀ prev curr, Evaluates X body s prev curr → Consecutive X prev curr) ↔
      ∀ r t row prev, StoredAtTurn X body s r t row prev → ArrivesLast X t.db.snapshots r := by
  have hpair : ∀ {r t row prev}, StoredAtTurn X body s r t row prev →
      (Consecutive X prev r.snapshot ↔ ArrivesLast X t.db.snapshots r) := fun h =>
    consecutive_pair hX (h.reachable hs).epochsRead h.stores h.predecessor
  refine ⟨fun hall r t row prev h => (hpair h).1 (hall prev _ ⟨r, t, row, h, rfl⟩), fun hall => ?_⟩
  rintro prev curr ⟨r, t, row, h, rfl⟩
  exact (hpair h).2 (hall r t row prev h)

/-- Every call of `evaluate_all` has its precondition exactly when the records arrive in the order
of their epochs. -/
theorem consecutive_iff (hX : PrintsTimes X) {db : Database} (h : Reachable X db)
    (ds : List GpDelivery) : AllConsecutive X db ds ↔ ArriveInOrder X db ds := by
  induction ds generalizing db with
  | nil => exact Iff.rfl
  | cons d ds ih =>
    have hnext : Reachable X (d.deliver X db) :=
      Reachable.gp_processResponse (s := d.start db) h d.rotationTargetIds d.jsonBody
    exact and_congr (consecutive_response hX (s := d.start db) h) (ih hnext)

end

namespace PreconditionFixture

open ReplayFixture RedeliveryFixture

/-- The element set with the earlier epoch arrives. -/
def delivery : GpDelivery := ⟨calmEnv 0 reissue, [], reissue⟩

/-- The stored one, read back. -/
def last : Snapshot where
  id := 1
  noradCatId := 5
  gpId := 100
  epoch := "2026-08-23"
  raOfAscNode := 10

/-- The printed form of both times is read back as them. -/
theorem printsTimes : PrintsTimes ReplayFixture.externals := by
  intro text t h
  obtain ⟨entry, hentry, rfl⟩ := Option.map_eq_some_iff.1 h
  have hmem := List.mem_of_find?_eq_some hentry
  simp only [List.mem_cons, List.not_mem_nil, or_false] at hmem
  rcases hmem with rfl | rfl <;> decide +kernel

/-- The reissue is stored behind the later element set, which it is then compared with. -/
theorem storedAtTurn : StoredAtTurn ReplayFixture.externals reissue (delivery.start stored)
    (record 101 "2026-08-22" 11) { delivery.start stored with counts := {} } (rowOf 2 101 0 11)
    last where
  turn := ⟨[], [], by decide +kernel, rfl⟩
  stores := ⟨by decide +kernel, by decide +kernel, by decide +kernel, by decide +kernel,
    by decide +kernel⟩
  predecessor := by decide +kernel

end PreconditionFixture

open PreconditionFixture ReplayFixture in
/-- So the precondition fails of this delivery, and the arrival is out of order. -/
theorem consecutive_iff_reissue : AllConsecutive ReplayFixture.externals stored [delivery] ↔
    ArriveInOrder ReplayFixture.externals stored [delivery] :=
  consecutive_iff printsTimes stored_reachable [delivery]

open PreconditionFixture ReplayFixture RedeliveryFixture in
/-- The rules are asked to compare an element set with one that is a day earlier. -/
theorem not_rulePrecondition : ¬ RulePrecondition ReplayFixture.externals := by
  intro h
  have hcall : Evaluates ReplayFixture.externals reissue (delivery.start stored) last
      (record 101 "2026-08-22" 11).snapshot := ⟨_, _, _, storedAtTurn, rfl⟩
  obtain ⟨t, u, ht, hu, hlt⟩ := ((h stored [delivery] stored_reachable).1 _ _ hcall).epoch
  cases ht
  cases hu
  exact absurd hlt (by decide)

end VitaleBackend
