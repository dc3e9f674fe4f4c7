import VitaleBackend.Db.Column
import VitaleBackend.Lib.Table

/-!
# The database

The tables of `db/migrations` with the columns the services read or write, and the constraints of
the schema as fields: a `Database` that breaks a primary key, a `UNIQUE` or a foreign key cannot be
built. Rows of `snapshots` and `audt_events` are only ever appended. Each `INSERT` is one function
that checks the constraints of its row and fails the statement otherwise.
-/

namespace VitaleBackend

open Relational

/-- A row of `objects`. -/
structure ObjectRow where
  noradCatId : Int
  objectName : Option String
  objectId : Option String
  objectType : Option String
  countryCode : Option String
  launchDate : Option Int
  site : Option String
  rcsSize : Option String
  decayDate : Option Int
  updatedAt : Timestamp
  hitCount : Int
  featured : Bool

/-- A row of `snapshots`. -/
structure SnapshotRow where
  id : Nat
  noradCatId : Int
  gpId : Int
  epoch : Timestamp
  fetchedAt : Timestamp
  meanMotion : Double
  eccentricity : Double
  inclination : Double
  raOfAscNode : Double
  argOfPericenter : Double
  meanAnomaly : Double
  semimajorAxis : Double
  period : Double
  apoapsis : Double
  periapsis : Double
  bstar : Double
  meanMotionDot : Double
  meanMotionDdot : Double
  elementSetNo : Int
  revAtEpoch : Int
  tleLine0 : String
  tleLine1 : String
  tleLine2 : String
  deriving DecidableEq

/-- A row of `audt_events`. -/
structure EventRow where
  id : Nat
  noradCatId : Int
  eventTypeCode : String
  eventTime : Timestamp
  detailJson : Json
  prevSnapshotId : Option Nat
  newSnapshotId : Option Nat

/-- A row of `poller_state`. -/
structure PollerRow where
  pollerName : String
  lastRunAt : Timestamp
  rotationCursor : Option Int

/-- The rows of `objects`, whose primary key is `norad_cat_id`. -/
abbrev Objects := Table ObjectRow Int ObjectRow.noradCatId

/-- The rows of `poller_state`, whose primary key is `poller_name`. -/
abbrev PollerState := Table PollerRow String PollerRow.pollerName

/-- The codes of `event_types`, seeded by migrations 001 and 005. -/
def eventTypeCodes : List String :=
  ["maneuver_detected", "decay_detected", "raan_shift", "eccentricity_change", "drag_change",
   "object_renamed", "object_type_changed", "rcs_size_changed"]

/-- The tables and the constraints of the schema. -/
structure Database where
  objects : Objects
  snapshots : List SnapshotRow
  audtEvents : List EventRow
  pollerState : PollerState
  object_ids : ∀ k ∈ objects.keys, IsInt32 k
  snapshot_ids : (snapshots.map (·.id)).Nodup
  snapshot_gp_ids : (snapshots.map (·.gpId)).Nodup
  snapshot_objects : ∀ s ∈ snapshots, s.noradCatId ∈ objects.keys
  event_objects : ∀ e ∈ audtEvents, e.noradCatId ∈ objects.keys
  event_codes : ∀ e ∈ audtEvents, e.eventTypeCode ∈ eventTypeCodes
  event_prev : ∀ e ∈ audtEvents, ∀ i ∈ e.prevSnapshotId, i ∈ snapshots.map (·.id)
  event_new : ∀ e ∈ audtEvents, ∀ i ∈ e.newSnapshotId, i ∈ snapshots.map (·.id)

/-- The largest of some generated ids, `0` when there is none. -/
def lastId (ids : List Nat) : Nat := ids.foldr max 0

/-- The last id is no less than any id in use. -/
theorem le_lastId {ids : List Nat} {i : Nat} (h : i ∈ ids) : i ≤ lastId ids := by
  induction ids with
  | nil => cases h
  | cons j ids ih =>
    rw [lastId, List.foldr_cons]
    rcases List.mem_cons.1 h with rfl | h
    · exact Nat.le_max_left _ _
    · exact (ih h).trans (Nat.le_max_right _ _)

namespace Database

/-- The database with rows in `objects` and in no other table. -/
def ofObjects (objects : Objects) (h : ∀ k ∈ objects.keys, IsInt32 k) : Database where
  objects := objects
  snapshots := []
  audtEvents := []
  pollerState := .empty
  object_ids := h
  snapshot_ids := .nil
  snapshot_gp_ids := .nil
  snapshot_objects := List.forall_mem_nil _
  event_objects := List.forall_mem_nil _
  event_codes := List.forall_mem_nil _
  event_prev := List.forall_mem_nil _
  event_new := List.forall_mem_nil _

/-- The migrated database without rows. -/
def empty : Database := ofObjects .empty (List.forall_mem_nil _)

/-! ## `snapshots` -/

/-- The constraints on a new row of `snapshots`. -/
def SnapshotAllowed (db : Database) (row : SnapshotRow) : Prop :=
  row.id ∉ db.snapshots.map (·.id) ∧ row.gpId ∉ db.snapshots.map (·.gpId) ∧
    row.noradCatId ∈ db.objects.keys

/-- Decided by looking through the tables. -/
instance (db : Database) (row : SnapshotRow) : Decidable (db.SnapshotAllowed row) :=
  inferInstanceAs (Decidable (row.id ∉ db.snapshots.map (·.id) ∧
    row.gpId ∉ db.snapshots.map (·.gpId) ∧ row.noradCatId ∈ db.objects.keys))

/-- The tables with a row of `snapshots` behind the others. The constraints that the row meets are
those of the result. -/
def addSnapshot (db : Database) (row : SnapshotRow) (h : db.SnapshotAllowed row) : Database where
  objects := db.objects
  snapshots := db.snapshots ++ [row]
  audtEvents := db.audtEvents
  pollerState := db.pollerState
  object_ids := db.object_ids
  snapshot_ids := by
    rw [List.map_append, List.map_singleton, ← List.concat_eq_append]
    exact db.snapshot_ids.concat h.1
  snapshot_gp_ids := by
    rw [List.map_append, List.map_singleton, ← List.concat_eq_append]
    exact db.snapshot_gp_ids.concat h.2.1
  snapshot_objects := by
    intro s hs
    rcases List.mem_append.1 hs with hs | hs
    · exact db.snapshot_objects s hs
    · rw [List.mem_singleton.1 hs]
      exact h.2.2
  event_objects := db.event_objects
  event_codes := db.event_codes
  event_prev := fun e he i hi => by
    rw [List.map_append]
    exact List.mem_append_left _ (db.event_prev e he i hi)
  event_new := fun e he i hi => by
    rw [List.map_append]
    exact List.mem_append_left _ (db.event_new e he i hi)

/-- `INSERT INTO snapshots`. -/
def insertSnapshotRow (row : SnapshotRow) (db : Database) : Except Exn Database :=
  if h : db.SnapshotAllowed row then .ok (db.addSnapshot row h) else .error .db

/-! ## `audt_events` -/

/-- The constraints on a new row of `audt_events`. -/
def EventAllowed (db : Database) (row : EventRow) : Prop :=
  row.noradCatId ∈ db.objects.keys ∧ row.eventTypeCode ∈ eventTypeCodes ∧
    (∀ i ∈ row.prevSnapshotId, i ∈ db.snapshots.map (·.id)) ∧
    ∀ i ∈ row.newSnapshotId, i ∈ db.snapshots.map (·.id)

/-- Decided by looking through the tables. -/
instance (db : Database) (row : EventRow) : Decidable (db.EventAllowed row) :=
  inferInstanceAs (Decidable (row.noradCatId ∈ db.objects.keys ∧
    row.eventTypeCode ∈ eventTypeCodes ∧
    (∀ i ∈ row.prevSnapshotId, i ∈ db.snapshots.map (·.id)) ∧
    ∀ i ∈ row.newSnapshotId, i ∈ db.snapshots.map (·.id)))

/-- The tables with a row of `audt_events` behind the others. -/
def addEvent (db : Database) (row : EventRow) (h : db.EventAllowed row) : Database where
  objects := db.objects
  snapshots := db.snapshots
  audtEvents := db.audtEvents ++ [row]
  pollerState := db.pollerState
  object_ids := db.object_ids
  snapshot_ids := db.snapshot_ids
  snapshot_gp_ids := db.snapshot_gp_ids
  snapshot_objects := db.snapshot_objects
  event_objects := List.forall_mem_append.2 ⟨db.event_objects, List.forall_mem_singleton.2 h.1⟩
  event_codes := List.forall_mem_append.2 ⟨db.event_codes, List.forall_mem_singleton.2 h.2.1⟩
  event_prev := List.forall_mem_append.2 ⟨db.event_prev, List.forall_mem_singleton.2 h.2.2.1⟩
  event_new := List.forall_mem_append.2 ⟨db.event_new, List.forall_mem_singleton.2 h.2.2.2⟩

/-- `INSERT INTO audt_events`. -/
def insertEventRow (row : EventRow) (db : Database) : Except Exn Database :=
  if h : db.EventAllowed row then .ok (db.addEvent row h) else .error .db

/-! ## `objects` and `poller_state` -/

/-- The database with other rows in `objects`, none of whose keys is taken away. -/
def withObjects (db : Database) (objects : Objects) (hint : ∀ k ∈ objects.keys, IsInt32 k)
    (hsub : ∀ k ∈ db.objects.keys, k ∈ objects.keys) : Database where
  objects := objects
  snapshots := db.snapshots
  audtEvents := db.audtEvents
  pollerState := db.pollerState
  object_ids := hint
  snapshot_ids := db.snapshot_ids
  snapshot_gp_ids := db.snapshot_gp_ids
  snapshot_objects := fun s hs => hsub _ (db.snapshot_objects s hs)
  event_objects := fun e he => hsub _ (db.event_objects e he)
  event_codes := db.event_codes
  event_prev := db.event_prev
  event_new := db.event_new

/-- The database with other rows in `poller_state`, which no other table refers to. -/
def withPollerState (db : Database) (pollerState : PollerState) : Database :=
  { db with pollerState := pollerState }

@[simp] theorem addSnapshot_snapshots (db : Database) (row : SnapshotRow)
    (h : db.SnapshotAllowed row) : (db.addSnapshot row h).snapshots = db.snapshots ++ [row] := rfl
@[simp] theorem addSnapshot_audtEvents (db : Database) (row : SnapshotRow)
    (h : db.SnapshotAllowed row) : (db.addSnapshot row h).audtEvents = db.audtEvents := rfl
@[simp] theorem addSnapshot_objects (db : Database) (row : SnapshotRow)
    (h : db.SnapshotAllowed row) : (db.addSnapshot row h).objects = db.objects := rfl
@[simp] theorem addSnapshot_pollerState (db : Database) (row : SnapshotRow)
    (h : db.SnapshotAllowed row) : (db.addSnapshot row h).pollerState = db.pollerState := rfl
@[simp] theorem addEvent_snapshots (db : Database) (row : EventRow) (h : db.EventAllowed row) :
    (db.addEvent row h).snapshots = db.snapshots := rfl
@[simp] theorem addEvent_audtEvents (db : Database) (row : EventRow) (h : db.EventAllowed row) :
    (db.addEvent row h).audtEvents = db.audtEvents ++ [row] := rfl
@[simp] theorem addEvent_objects (db : Database) (row : EventRow) (h : db.EventAllowed row) :
    (db.addEvent row h).objects = db.objects := rfl
@[simp] theorem addEvent_pollerState (db : Database) (row : EventRow) (h : db.EventAllowed row) :
    (db.addEvent row h).pollerState = db.pollerState := rfl

/-- An `INSERT INTO snapshots` that succeeds appends its row, which met the constraints. -/
theorem insertSnapshotRow_ok {row : SnapshotRow} {db db' : Database} :
    insertSnapshotRow row db = .ok db' ↔
      ∃ h : db.SnapshotAllowed row, db' = db.addSnapshot row h := by
  unfold insertSnapshotRow
  split
  · next h => simp [h, eq_comm]
  · next h => simp [h]

/-- An `INSERT INTO audt_events` that succeeds appends its row, which met the constraints. -/
theorem insertEventRow_ok {row : EventRow} {db db' : Database} :
    insertEventRow row db = .ok db' ↔ ∃ h : db.EventAllowed row, db' = db.addEvent row h := by
  unfold insertEventRow
  split
  · next h => simp [h, eq_comm]
  · next h => simp [h]

/-- The GP rotation cursor: NULL also when the poller has no row yet. -/
def rotationCursor (db : Database) : Option Int :=
  (db.pollerState.find? "gp").bind (·.rotationCursor)

end Database

end VitaleBackend
