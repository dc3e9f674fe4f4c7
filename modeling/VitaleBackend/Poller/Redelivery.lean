import VitaleBackend.Poller.StoreRecord
import VitaleBackend.Poller.Rotation
import Mathlib.Logic.Relation

/-!
# Events lost between two commits

A snapshot and its events are committed one by one, and the `gp_id` of a stored snapshot keeps a
later delivery of the record from being evaluated again. So the events of a pair are complete in the
end exactly when every `insert_event` of the process that stored the snapshot went through
(`events_complete_iff`). `HistoryGrows` is the frame that says why nothing can be made up for: no
process adds an event to a snapshot that was there before it started.
-/

namespace VitaleBackend

open Process Relational

/-- Rows are only appended, and the events among them belong to snapshots that were not there. -/
structure HistoryGrows (db db' : Database) : Prop where
  snapshots : db.snapshots <+: db'.snapshots
  audtEvents : ∃ rs, db'.audtEvents.map (·.recorded) = db.audtEvents.map (·.recorded) ++ rs ∧
    ∀ r ∈ rs, ∀ i ∈ r.newSnapshotId, i ∉ db.snapshots.map (·.id)

namespace HistoryGrows

/-- Nothing is appended when nothing is done. -/
theorem refl (db : Database) : HistoryGrows db db :=
  ⟨List.prefix_refl _, [], (List.append_nil _).symm, List.forall_mem_nil _⟩

/-- The ids in use stay in use. -/
theorem ids_subset {db db' : Database} (h : HistoryGrows db db') :
    db.snapshots.map (·.id) ⊆ db'.snapshots.map (·.id) :=
  List.map_subset _ h.snapshots.subset

/-- What two jobs append they append in a row. An event of the second belongs to a snapshot that was
new after the first, and so before it. -/
theorem trans {db₁ db₂ db₃ : Database} (h : HistoryGrows db₁ db₂) (h' : HistoryGrows db₂ db₃) :
    HistoryGrows db₁ db₃ := by
  obtain ⟨rs, he, hn⟩ := h.audtEvents
  obtain ⟨rs', he', hn'⟩ := h'.audtEvents
  refine ⟨h.snapshots.trans h'.snapshots, rs ++ rs', ?_, List.forall_mem_append.2 ⟨hn, ?_⟩⟩
  · rw [he', he, List.append_assoc]
  · exact fun r hr i hi hmem => hn' r hr i hi (h.ids_subset hmem)

/-- Appending is a frame for jobs that do nothing. -/
instance : Std.Refl HistoryGrows := ⟨refl⟩

/-- Appending is a frame for jobs in a row. -/
instance : IsTrans Database HistoryGrows := ⟨fun _ _ _ => trans⟩

/-- A write of the poller states appends nothing. -/
theorem withPollerState (db : Database) (pollerState : PollerState) :
    HistoryGrows db (db.withPollerState pollerState) :=
  ⟨List.prefix_refl _, [], (List.append_nil _).symm, List.forall_mem_nil _⟩

end HistoryGrows

/-- The upsert of a record appends events of no snapshot. -/
theorem UpsertedRow.grows {X : Externals} {registry : RuleRegistry ObjectState} {call : Call}
    {obj : ObjectRecord} {db db' : Database} (h : UpsertedRow X registry call obj db db') :
    HistoryGrows db db' := by
  refine ⟨h.snapshots ▸ List.prefix_refl _, _, h.audtEvents, ?_⟩
  intro r hr i hi
  obtain ⟨e, -, rfl⟩ := List.mem_map.1 hr
  cases hi

/-! ## Every process respects the frame -/

/-- The events of a stored record all belong to its new snapshot. -/
theorem Stores.newSnapshotId {X : Externals} {r : GpRecord} {s : Session} {row : SnapshotRow}
    (h : Stores X r s row) : ∀ e ∈ h.fired, e.newSnapshotId = some row.id := by
  intro e he
  unfold Stores.fired firedEvents at he
  split at he
  · cases he
  · obtain ⟨d, -, rfl⟩ := List.mem_map.1 he
    rfl

/-- The turn of a record appends its snapshot, and events of it. -/
theorem processRecord_grows (X : Externals) (r : GpRecord) :
    Proc.Within (OnDb HistoryGrows) (GpPoller.processRecord X r) := by
  intro s
  have hwithin := processRecord_within X r s
  refine ⟨?_, hwithin.env, hwithin.used, hwithin.sent⟩
  rw [processRecord_db]
  by_cases h : ∃ row, Stores X r s row
  · obtain ⟨row, h⟩ := h
    obtain ⟨k, -, hev, -⟩ := storeRecord_stores h
    refine ⟨hev.snapshots ▸ List.prefix_append _ _, _, hev.audtEvents, ?_⟩
    intro e he i hi
    rw [h.newSnapshotId e (List.mem_of_mem_take he)] at hi
    cases hi
    exact h.allowed.1
  · rw [storeRecord_skips fun row hrow => h ⟨row, hrow⟩]
    exact HistoryGrows.refl _

/-- The cursor is in another table. -/
theorem advanceCursor_grows (rotationTargetIds : List Int) :
    Proc.Within (OnDb HistoryGrows) (GpPoller.advanceCursor rotationTargetIds) := by
  unfold GpPoller.advanceCursor
  split
  · refine transaction_onDb fun call db a db' h => ?_
    obtain ⟨-, h'⟩ := Sql.advanceGpRotationCursor_ok.1 (map_unit_ok.1 h)
    cases h'
    exact HistoryGrows.withPollerState db _
  · exact .pure _

/-- The last part of a GP response, from any record on. -/
theorem finish_grows (X : Externals) (rotationTargetIds : List Int) (records : List GpRecord) :
    Proc.Within (OnDb HistoryGrows)
      (Proc.forEach (GpPoller.processRecord X) records >>= fun _ =>
        GpPoller.advanceCursor rotationTargetIds) :=
  (Proc.Within.forEach fun r _ => processRecord_grows X r).bind fun _ => advanceCursor_grows _

/-- A GP response appends. -/
theorem gp_processResponse_grows (X : Externals) (rotationTargetIds : List Int) (body : String) :
    Proc.Within (OnDb HistoryGrows) (GpPoller.processResponse X rotationTargetIds body) :=
  (Proc.Within.ofExcept _).bind fun records =>
    (modify_onDb fun _ => by exact ⟨rfl, rfl, rfl, rfl⟩).bind fun _ => finish_grows X _ records

/-- A SATCAT response appends events of no snapshot. -/
theorem satcat_processResponse_grows (X : Externals) (body : String) :
    Proc.Within (OnDb HistoryGrows) (SatcatPoller.processResponse X body) :=
  satcat_processResponse_onDb X (fun _ _ _ _ h => h.grows) body

/-- A GP run, with its selects and its request, appends as well. -/
theorem runGp_grows (X : Externals) : Proc.Within (OnRun HistoryGrows) (runGp X) := by
  refine (onRun (query_onDb _)).bind fun hot => (onRun (query_onDb _)).bind fun rot => ?_
  exact run_onRun (p := gpPoller X hot rot) (gp_processResponse_grows X rot)

/-- One cron invocation. -/
theorem main_grows (X : Externals) : Proc.Within (OnRun HistoryGrows) (main X) :=
  main_onRun (fun _ _ db => HistoryGrows.withPollerState db _) (satcat_processResponse_grows X)
    (runGp_grows X)

/-- Any number of later cron invocations. -/
abbrev Later (X : Externals) : Database → Database → Prop :=
  Relation.ReflTransGen fun db db' => ∃ s : Session, s.db = db ∧ (main X s).2.db = db'

/-- Whatever runs later, rows are only appended. -/
theorem later_grows {X : Externals} {db db' : Database} (h : Later X db db') :
    HistoryGrows db db' := by
  induction h with
  | refl => exact HistoryGrows.refl _
  | tail _ hstep ih =>
    obtain ⟨s, rfl, rfl⟩ := hstep
    exact ih.trans (main_grows X s).1

/-! ## The events of a pair -/

/-- The events recorded for a pair of snapshots. -/
def recordedFor (p q : Nat) (db : Database) : List DetectedEvent :=
  ((db.audtEvents.map (·.recorded)).filter fun r =>
    r.prevSnapshotId = some p ∧ r.newSnapshotId = some q).map (·.event)

/-- The events of a snapshot that is there are all there. -/
theorem recordedFor_grows {p q : Nat} {db db' : Database} (h : HistoryGrows db db')
    (hq : q ∈ db.snapshots.map (·.id)) : recordedFor p q db' = recordedFor p q db := by
  obtain ⟨rs, he, hn⟩ := h.audtEvents
  have hnil : (rs.filter fun r => r.prevSnapshotId = some p ∧ r.newSnapshotId = some q) = [] := by
    refine List.filter_eq_nil_iff.2 fun r hr hpq => ?_
    simp only [decide_eq_true_eq] at hpq
    exact hn r hr q hpq.2 hq
  unfold recordedFor
  rw [he, List.filter_append, hnil, List.append_nil]

/-- A snapshot that is not there has no events. -/
theorem recordedFor_absent {p q : Nat} {db : Database} (hq : q ∉ db.snapshots.map (·.id)) :
    recordedFor p q db = [] := by
  unfold recordedFor
  rw [List.filter_eq_nil_iff.2, List.map_nil]
  intro r hr hpq
  obtain ⟨row, hrow, rfl⟩ := List.mem_map.1 hr
  simp only [decide_eq_true_eq] at hpq
  exact hq (db.event_new row hrow q hpq.2)

/-- A run of events of one pair is read back whole. -/
theorem filter_pairEvents (n : Int) (p q : Nat) (events : List DetectedEvent) :
    ((pairEvents n p q events).filter fun r =>
      r.prevSnapshotId = some p ∧ r.newSnapshotId = some q).map (·.event) = events := by
  unfold pairEvents
  rw [List.filter_eq_self.2, List.map_map]
  · exact List.map_id'' (fun _ => rfl) events
  · intro r hr
    obtain ⟨e, -, rfl⟩ := List.mem_map.1 hr
    simp

/-- What is recorded for a record right after its turn, which stored it behind a predecessor. -/
theorem recordedFor_turn {X : Externals} {r : GpRecord} {t : Session} {row : SnapshotRow}
    {p : Snapshot} (h : Stores X r t row)
    (hp : Sql.getLastSnapshot X r.object.noradCatId t.db = some p) :
    ∃ k ≤ (makeDefaultRuleRegistry.evaluateAll p r.snapshot).length,
      recordedFor p.id row.id (GpPoller.processRecord X r t).2.db =
        (makeDefaultRuleRegistry.evaluateAll p r.snapshot).take k ∧
      row.id ∈ (GpPoller.processRecord X r t).2.db.snapshots.map (·.id) ∧
      (k = (makeDefaultRuleRegistry.evaluateAll p r.snapshot).length ↔
        ∀ i < (makeDefaultRuleRegistry.evaluateAll p r.snapshot).length,
          (t.env (t.used + 2 + i)).fault = .none) := by
  obtain ⟨k, hk, hev, hiff⟩ := storeRecord_stores h
  have hfired : h.fired = pairEvents r.object.noradCatId p.id row.id
      (makeDefaultRuleRegistry.evaluateAll p r.snapshot) := by
    unfold Stores.fired firedEvents
    rw [hp]
  rw [hfired] at hk hev hiff
  unfold pairEvents at hk hiff
  rw [List.length_map] at hk hiff
  refine ⟨k, hk, ?_, ?_, hiff⟩
  · have hbefore : recordedFor p.id row.id t.db = [] := recordedFor_absent h.allowed.1
    unfold recordedFor at hbefore ⊢
    rw [processRecord_db, hev.audtEvents, List.filter_append, List.map_append,
      Database.addSnapshot_audtEvents, hbefore, List.nil_append]
    unfold pairEvents
    rw [← List.map_take]
    exact filter_pairEvents _ _ _ _
  · rw [processRecord_db, hev.snapshots]
    exact List.mem_map_of_mem (List.mem_append_right _ (.head _))

/-- A record of a response is stored at its turn, behind a predecessor: the process `s` that handles
the response is the process `t` when the turn comes. -/
structure StoredAtTurn (X : Externals) (body : String) (s : Session) (r : GpRecord) (t : Session)
    (row : SnapshotRow) (p : Snapshot) : Prop where
  turn : ∃ pre post, parseGpResponse X body = .ok (pre ++ r :: post) ∧
    Proc.forEach (GpPoller.processRecord X) pre { s with counts := {} } = (.ok (), t)
  stores : Stores X r t row
  predecessor : Sql.getLastSnapshot X r.object.noradCatId t.db = some p

/-- No event is lost: whatever happens to the process and whatever runs later, the pair of a stored
record has exactly the events that `evaluate_all` fires on it. -/
def NoEventLost (X : Externals) : Prop :=
  ∀ rot body s r t row p db', StoredAtTurn X body s r t row p →
    Later X (GpPoller.processResponse X rot body s).2.db db' →
    (recordedFor p.id row.id db').Perm (makeDefaultRuleRegistry.evaluateAll p r.snapshot)

/-- The process goes on from the record's turn within the frame. -/
theorem StoredAtTurn.grows {X : Externals} {body : String} {s t : Session} {r : GpRecord}
    {row : SnapshotRow} {p : Snapshot} (h : StoredAtTurn X body s r t row p) (rot : List Int) :
    HistoryGrows (GpPoller.processRecord X r t).2.db
      (GpPoller.processResponse X rot body s).2.db := by
  obtain ⟨pre, post, hparse, hpre⟩ := h.turn
  unfold GpPoller.processResponse
  rw [hparse, Proc.ofExcept_ok, pure_bind, Proc.bind_ok (Proc.modify_run _ s),
    Proc.forEach_append, bind_assoc, Proc.bind_ok hpre, Proc.forEach_cons, bind_assoc,
    Proc.bind_run]
  rcases GpPoller.processRecord X r t with ⟨_ | _ | _, t'⟩
  · exact (finish_grows X rot post t').1
  · exact HistoryGrows.refl _
  · exact HistoryGrows.refl _

/-- The events of a stored pair are complete in the end exactly when no call of its inserts failed
or was the stop of the process. -/
theorem events_complete_iff {X : Externals} {rot : List Int} {body : String} {s t : Session}
    {r : GpRecord} {row : SnapshotRow} {p : Snapshot} {db' : Database}
    (h : StoredAtTurn X body s r t row p)
    (hlater : Later X (GpPoller.processResponse X rot body s).2.db db') :
    (recordedFor p.id row.id db').Perm (makeDefaultRuleRegistry.evaluateAll p r.snapshot) ↔
      ∀ i < (makeDefaultRuleRegistry.evaluateAll p r.snapshot).length,
        (t.env (t.used + 2 + i)).fault = .none := by
  obtain ⟨k, hk, hrec, hid, hiff⟩ := recordedFor_turn h.stores h.predecessor
  have hgrows : HistoryGrows (GpPoller.processRecord X r t).2.db db' :=
    (h.grows rot).trans (later_grows hlater)
  rw [recordedFor_grows hgrows hid, hrec, ← hiff]
  constructor
  · intro hperm
    have hlen := hperm.length_eq
    rw [List.length_take] at hlen
    omega
  · intro hall
    rw [hall, List.take_length]

namespace RedeliveryFixture

/-- An entry of object 5. -/
def entry (gpId epoch raOfAscNode : String) : Json :=
  .obj [("NORAD_CAT_ID", .str "5"), ("GP_ID", .str gpId), ("EPOCH", .str epoch),
    ("RA_OF_ASC_NODE", .str raOfAscNode)]

/-- The record that is read from it. -/
def record (gpId : Int) (epoch : String) (raOfAscNode : Double) : GpRecord where
  object := { noradCatId := 5, objectName := "", objectId := "", objectType := "",
              countryCode := "", launchDate := none, site := "", rcsSize := "", decayDate := none }
  snapshot := { noradCatId := 5, gpId, epoch, raOfAscNode }
  noradCatId_eq := rfl

/-- Two element sets of one object, whose ascending node moved by one degree. -/
def response : String := "[\x7b\"GP_ID\":\"100\"\x7d,\x7b\"GP_ID\":\"101\"\x7d]"

/-- Both entries are parsed, and both epochs are converted. -/
def externals : Externals :=
  .ofTables [(response, .arr [entry "100" "2026-08-22" "10", entry "101" "2026-08-23" "11"])] []
    [("2026-08-22", 0), ("2026-08-23", 1)]

/-- The catalogue, with a satcat run on record. -/
def before : Database :=
  (RotationFixture.catalogue 0).withPollerState ⟨[⟨"satcat", 0, none⟩], List.nodup_singleton _⟩

/-- The fifth call of the process, which inserts the event, fails. -/
def env : Nat → Call := fun i =>
  if i = 4 then { calmEnv 0 response i with fault := .fails } else calmEnv 0 response i

/-- The process that is to handle the response. -/
def start : Session := .start before env

/-- The process when the second record has its turn. -/
def turn : Session :=
  (Proc.forEach (GpPoller.processRecord externals) [record 100 "2026-08-22" 10]
    { start with counts := {} }).2

/-- The process that has handled the response. -/
def handled : Session := (GpPoller.processResponse externals [] response start).2

/-- A later process, which gets the same response. -/
def later : Session := (main externals (.start handled.db (calmEnv 0 response))).2

/-- The row of such a record. -/
def rowOf (id : Nat) (gpId : Int) (epoch : Timestamp) (raOfAscNode : Double) : SnapshotRow where
  id
  noradCatId := 5
  gpId
  epoch
  fetchedAt := 0
  meanMotion := 0
  eccentricity := 0
  inclination := 0
  raOfAscNode
  argOfPericenter := 0
  meanAnomaly := 0
  semimajorAxis := 0
  period := 0
  apoapsis := 0
  periapsis := 0
  bstar := 0
  meanMotionDot := 0
  meanMotionDdot := 0
  elementSetNo := 0
  revAtEpoch := 0
  tleLine0 := ""
  tleLine1 := ""
  tleLine2 := ""

/-- The first record, read back. -/
def predecessor : Snapshot where
  id := 1
  noradCatId := 5
  gpId := 100
  epoch := "2026-08-22"
  raOfAscNode := 10

/-- The second record is stored at its turn, behind the first. -/
theorem storedAtTurn :
    StoredAtTurn externals response start (record 101 "2026-08-23" 11) turn (rowOf 2 101 1 11)
      predecessor where
  turn := ⟨[record 100 "2026-08-22" 10], [], by decide +kernel, Prod.ext (by decide +kernel) rfl⟩
  stores := ⟨by decide +kernel, by decide +kernel, by decide +kernel, by decide +kernel,
    by decide +kernel⟩
  predecessor := by decide +kernel

/-- A later run leads from the tables after the one to the tables after the other. -/
theorem redelivered : Later externals handled.db later.db :=
  .single ⟨.start handled.db (calmEnv 0 response), rfl, rfl⟩

/-- No event of the pair is recorded then. -/
theorem recorded_none : (recordedFor 1 2 later.db).length = 0 := by decide +kernel

/-- One event would have to be: the node has moved. -/
theorem fired_one : (makeDefaultRuleRegistry.evaluateAll predecessor
    (record 101 "2026-08-23" 11).snapshot).length = 1 := by decide +kernel

end RedeliveryFixture

open RedeliveryFixture in
/-- The events are not complete, and one of the calls that insert them failed. -/
theorem events_complete_iff_failed :
    (recordedFor 1 2 later.db).Perm (makeDefaultRuleRegistry.evaluateAll predecessor
      (record 101 "2026-08-23" 11).snapshot) ↔
      ∀ i < (makeDefaultRuleRegistry.evaluateAll predecessor
        (record 101 "2026-08-23" 11).snapshot).length,
        (turn.env (turn.used + 2 + i)).fault = .none :=
  events_complete_iff storedAtTurn redelivered

open RedeliveryFixture in
/-- The insert of the event fails, and the next delivery of the record finds the snapshot stored. -/
theorem not_noEventLost : ¬ NoEventLost externals := by
  intro h
  have hlen := (h [] _ _ _ _ _ _ _ storedAtTurn redelivered).length_eq
  rw [fired_one] at hlen
  exact absurd (recorded_none.symm.trans hlen) (by decide)

end VitaleBackend
