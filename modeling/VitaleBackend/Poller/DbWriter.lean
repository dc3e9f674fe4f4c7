import VitaleBackend.Poller.Session
import VitaleBackend.Poller.Record

/-!
# `DbWriter`

The write path into Postgres. Each method is one transaction; the function of the same name in the
namespace `Sql` is what its statements do to the tables.
-/

namespace VitaleBackend

open Process Relational

/-! ## Rows -/

/-- The parameters of `INSERT INTO objects`, converted to the column types. The column list has no
`object_id`, and `hit_count` and `featured` take their defaults. -/
def ObjectRow.ofRecord (X : Externals) (now : Timestamp) (obj : ObjectRecord) :
    Except Exn ObjectRow := do
  let noradCatId ← integerColumn obj.noradCatId
  let objectName ← varchar 25 obj.objectName
  let objectType ← varchar 12 obj.objectType
  let countryCode ← varchar 6 obj.countryCode
  let launchDate ← obj.launchDate.mapM (columnInput X.dateIn)
  let site ← varchar 5 obj.site
  let rcsSize ← varchar 6 obj.rcsSize
  let decayDate ← obj.decayDate.mapM (columnInput X.dateIn)
  return { noradCatId, objectName, objectId := none, objectType, countryCode, launchDate, site,
           rcsSize, decayDate, updatedAt := now, hitCount := 0, featured := false }

/-- `DO UPDATE SET` of the upsert: what the conflicting row becomes. -/
def ObjectRow.onConflict (excluded row : ObjectRow) : ObjectRow :=
  { row with
    objectName := excluded.objectName
    objectType := excluded.objectType
    rcsSize := excluded.rcsSize
    decayDate := excluded.decayDate
    updatedAt := excluded.updatedAt }

/-- A conflict is one of rows with the same number, and keeps it. -/
@[simp] theorem ObjectRow.onConflict_noradCatId (excluded row : ObjectRow) :
    (ObjectRow.onConflict excluded row).noradCatId = row.noradCatId := rfl

/-- The stored row as the rules see it: NULL reads as the empty text. -/
def ObjectRow.prevState (X : Externals) (row : ObjectRow) : ObjectState where
  noradCatId := row.noradCatId
  objectName := row.objectName.getD ""
  objectType := row.objectType.getD ""
  rcsSize := row.rcsSize.getD ""
  decayDate := row.decayDate.map X.dateOut

/-- The incoming record as the rules see it. -/
def ObjectRecord.currState (obj : ObjectRecord) : ObjectState where
  noradCatId := obj.noradCatId
  objectName := obj.objectName
  objectType := obj.objectType
  rcsSize := obj.rcsSize
  decayDate := obj.decayDate

/-- The parameters of `INSERT INTO snapshots`, converted to the column types. -/
def SnapshotRow.ofSnapshot (X : Externals) (id : Nat) (now : Timestamp) (snap : Snapshot) :
    Except Exn SnapshotRow := do
  let noradCatId ← integerColumn snap.noradCatId
  let gpId ← integerColumn snap.gpId
  let epoch ← columnInput X.timestampIn snap.epoch
  let meanMotion ← numericColumn 13 8 snap.meanMotion
  let eccentricity ← numericColumn 13 8 snap.eccentricity
  let inclination ← numericColumn 7 4 snap.inclination
  let raOfAscNode ← numericColumn 7 4 snap.raOfAscNode
  let argOfPericenter ← numericColumn 7 4 snap.argOfPericenter
  let meanAnomaly ← numericColumn 7 4 snap.meanAnomaly
  let bstar ← numericColumn 19 14 snap.bstar
  let meanMotionDot ← numericColumn 9 8 snap.meanMotionDot
  let meanMotionDdot ← numericColumn 22 13 snap.meanMotionDdot
  let elementSetNo ← smallintColumn snap.elementSetNo
  let revAtEpoch ← integerColumn snap.revAtEpoch
  let tleLine0 ← varchar 27 snap.tleLine0
  let tleLine1 ← varchar 71 snap.tleLine1
  let tleLine2 ← varchar 71 snap.tleLine2
  return { id, noradCatId, gpId, epoch, fetchedAt := now, meanMotion, eccentricity, inclination,
           raOfAscNode, argOfPericenter, meanAnomaly, semimajorAxis := snap.semimajorAxis,
           period := snap.period, apoapsis := snap.apoapsis, periapsis := snap.periapsis, bstar,
           meanMotionDot, meanMotionDdot, elementSetNo, revAtEpoch, tleLine0, tleLine1, tleLine2 }

/-- A stored row read back into a `Snapshot`. -/
def SnapshotRow.toSnapshot (X : Externals) (row : SnapshotRow) (decayDate : Option Int) :
    Snapshot where
  id := row.id
  noradCatId := row.noradCatId
  gpId := row.gpId
  epoch := X.timestampOut row.epoch
  meanMotion := row.meanMotion
  eccentricity := row.eccentricity
  inclination := row.inclination
  raOfAscNode := row.raOfAscNode
  argOfPericenter := row.argOfPericenter
  meanAnomaly := row.meanAnomaly
  semimajorAxis := row.semimajorAxis
  period := row.period
  apoapsis := row.apoapsis
  periapsis := row.periapsis
  bstar := row.bstar
  meanMotionDot := row.meanMotionDot
  meanMotionDdot := row.meanMotionDdot
  elementSetNo := row.elementSetNo
  revAtEpoch := row.revAtEpoch
  tleLine0 := row.tleLine0
  tleLine1 := row.tleLine1
  tleLine2 := row.tleLine2
  decayDate := decayDate.map X.dateOut

/-! ## Statements -/

namespace Sql

/-- The row of an event, with the next generated id. -/
def eventRow (call : Call) (noradCatId : Int) (event : DetectedEvent)
    (prevSnapshotId newSnapshotId : Option Nat) (db : Database) : EventRow where
  id := lastId (db.audtEvents.map (·.id)) + 1 + call.gap
  noradCatId
  eventTypeCode := event.eventTypeCode
  eventTime := call.now
  detailJson := event.detailJson
  prevSnapshotId
  newSnapshotId

/-- `INSERT INTO audt_events`. -/
def insertEvent (call : Call) (noradCatId : Int) (event : DetectedEvent)
    (prevSnapshotId newSnapshotId : Option Nat) (db : Database) : Except Exn Database :=
  db.insertEventRow (eventRow call noradCatId event prevSnapshotId newSnapshotId db)

/-- The inner loop of the SATCAT batch: one insert for each event. -/
def insertSatcatEvents (call : Call) (noradCatId : Int) :
    List DetectedEvent → Database → Except Exn Database
  | [], db => .ok db
  | event :: events, db => do
    let db ← insertEvent call noradCatId event none none db
    insertSatcatEvents call noradCatId events db

/-- The upsert into `objects`. -/
def upsertObject (row : ObjectRow) (db : Database) : Except Exn Database :=
  if h : IsInt32 row.noradCatId then
    .ok (db.withObjects (db.objects.upsert row row.onConflict row.onConflict_noradCatId)
      (fun k hk => by
        rcases (Table.mem_keys_upsert _ _ _ _).1 hk with hk | rfl
        · exact db.object_ids k hk
        · exact h)
      fun k hk => (Table.mem_keys_upsert _ _ _ _).2 (.inl hk))
  else .error .db

/-- One row of the batch: diff against the stored row, record what fires, upsert. -/
def upsertRow (X : Externals) (registry : RuleRegistry ObjectState) (call : Call)
    (obj : ObjectRecord) (db : Database) : Except Exn (List DetectedEvent × Database) := do
  let events := match db.objects.find? obj.noradCatId with
    | none => []
    | some prevRow => registry.evaluateAll (prevRow.prevState X) obj.currState
  let db ← insertSatcatEvents call obj.noradCatId events db
  let row ← ObjectRow.ofRecord X call.now obj
  let db ← upsertObject row db
  return (events, db)

/-- The loop of `upsert_objects_from_satcat`. -/
def upsertObjectsFromSatcat (X : Externals) (registry : RuleRegistry ObjectState) (call : Call) :
    List ObjectRecord → Database → Except Exn (List DetectedEvent × Database)
  | [], db => .ok ([], db)
  | obj :: objs, db => do
    let (events, db) ← upsertRow X registry call obj db
    let (firedEvents, db) ← upsertObjectsFromSatcat X registry call objs db
    return (events ++ firedEvents, db)

/-- `ORDER BY s.epoch DESC`. -/
def latestFirst (a b : SnapshotRow) : Prop := b.epoch ≤ a.epoch

/-- Epochs are compared as integers. -/
instance : DecidableRel latestFirst := fun a b => inferInstanceAs (Decidable (b.epoch ≤ a.epoch))

/-- Any two snapshots can be ordered by their epochs. -/
instance : Std.Total latestFirst := ⟨fun a b => Int.le_total b.epoch a.epoch⟩

/-- The order by epoch is transitive. -/
instance : IsTrans SnapshotRow latestFirst := ⟨fun _ _ _ h h' => Int.le_trans h' h⟩

/-- The snapshot of an object that is last by epoch. -/
def lastSnapshotRow (snapshots : List SnapshotRow) (noradCatId : Int) : Option SnapshotRow :=
  (firstBy latestFirst 1 (snapshots.filter (·.noradCatId = noradCatId))).head?

/-- The select of `get_last_snapshot`: the last snapshot, joined with the object's `decay_date`. -/
def selectLast (X : Externals) (objects : Objects) (snapshots : List SnapshotRow)
    (noradCatId : Int) : Option Snapshot :=
  (objects.find? noradCatId).bind fun o =>
    (lastSnapshotRow snapshots noradCatId).map fun s => s.toSnapshot X o.decayDate

/-- `get_last_snapshot`. -/
def getLastSnapshot (X : Externals) (noradCatId : Int) (db : Database) : Option Snapshot :=
  selectLast X db.objects db.snapshots noradCatId

/-- `insert_snapshot`: the generated id follows every id in use. -/
def insertSnapshot (X : Externals) (call : Call) (snap : Snapshot) (db : Database) :
    Except Exn (Nat × Database) := do
  let row ← SnapshotRow.ofSnapshot X (lastId (db.snapshots.map (·.id)) + 1 + call.gap) call.now snap
  let db ← db.insertSnapshotRow row
  return (row.id, db)

/-- The fixed tolerance of the due-check. -/
def dueTolerance : Timestamp := 5 * 60 * 1000000

/-- `is_poller_due`: true when no run was recorded. -/
def isPollerDue (pollerName : String) (interval : Timestamp) (now : Timestamp) (db : Database) :
    Bool :=
  match db.pollerState.find? pollerName with
  | none => true
  | some row => row.lastRunAt ≤ now - interval + dueTolerance

/-- `mark_poller_run`. -/
def markPollerRun (pollerName : String) (now : Timestamp) (db : Database) : Database :=
  db.withPollerState (db.pollerState.upsert ⟨pollerName, now, none⟩
    (fun row => { row with lastRunAt := now }) fun _ => rfl)

/-- `ORDER BY norad_cat_id`. -/
def byNoradCatId (a b : ObjectRow) : Prop := a.noradCatId ≤ b.noradCatId

/-- Numbers are compared as integers. -/
instance : DecidableRel byNoradCatId :=
  fun a b => inferInstanceAs (Decidable (a.noradCatId ≤ b.noradCatId))

/-- Any two objects can be ordered by their numbers. -/
instance : Std.Total byNoradCatId := ⟨fun a b => Int.le_total a.noradCatId b.noradCatId⟩

/-- The order by number is transitive. -/
instance : IsTrans ObjectRow byNoradCatId := ⟨fun _ _ _ h h' => Int.le_trans h h'⟩

/-- The undecayed objects past a lower bound and outside an exclusion list, by id, up to a limit. -/
def selectTargets (objects : Objects) (lowerBound : Option Int) (excludeIds : List Int)
    (limit : Nat) : List Int :=
  (firstBy byNoradCatId limit (objects.rows.filter fun o =>
    o.decayDate.isNone ∧ (∀ c ∈ lowerBound, c < o.noradCatId) ∧ o.noradCatId ∉ excludeIds)).map
    (·.noradCatId)

/-- The first select of `next_gp_rotation_batch`: from the cursor on, `-1` standing for none. -/
def primaryTargets (batchSize : Nat) (excludeIds : List Int) (db : Database) : List Int :=
  selectTargets db.objects (some (db.rotationCursor.getD (-1))) excludeIds batchSize

/-- `next_gp_rotation_batch`: a short first select is filled from the start of the catalogue. -/
def nextGpRotationBatch (batchSize : Nat) (excludeIds : List Int) (db : Database) : List Int :=
  let batch := primaryTargets batchSize excludeIds db
  if batch.length < batchSize then
    batch ++ selectTargets db.objects none excludeIds (batchSize - batch.length)
  else batch

/-- `ORDER BY featured DESC, hit_count DESC, norad_cat_id ASC`. -/
def hotFirst (a b : ObjectRow) : Prop :=
  (a.featured = true ∧ b.featured = false) ∨ (a.featured = b.featured ∧
    (b.hitCount < a.hitCount ∨ (a.hitCount = b.hitCount ∧ a.noradCatId ≤ b.noradCatId)))

/-- Decided by its three keys. -/
instance : DecidableRel hotFirst := fun a b =>
  inferInstanceAs (Decidable ((a.featured = true ∧ b.featured = false) ∨
    (a.featured = b.featured ∧
      (b.hitCount < a.hitCount ∨ (a.hitCount = b.hitCount ∧ a.noradCatId ≤ b.noradCatId)))))

/-- `top_gp_hot_targets`. -/
def topGpHotTargets (limit : Nat) (db : Database) : List Int :=
  (firstBy hotFirst limit (db.objects.rows.filter fun o =>
    o.decayDate.isNone ∧ (o.featured = true ∨ 0 < o.hitCount))).map (·.noradCatId)

/-- `advance_gp_rotation_cursor`. -/
def advanceGpRotationCursor (newCursor : Int) (now : Timestamp) (db : Database) :
    Except Exn Database := do
  let cursor ← integerColumn newCursor
  return db.withPollerState (db.pollerState.upsert ⟨"gp", now, some cursor⟩
    (fun row => { row with rotationCursor := some cursor }) fun _ => rfl)

end Sql

/-! ## What the statements do

One lemma for each statement that writes: the rows it leaves when it succeeds, and the constraints
that let it.
-/

namespace Sql

/-- An event is inserted exactly when the constraints of its row are met, and then it is the last
row of the table. -/
theorem insertEvent_ok {call : Call} {n : Int} {e : DetectedEvent} {p q : Option Nat}
    {db db' : Database} : insertEvent call n e p q db = .ok db' ↔
      ∃ h : db.EventAllowed (eventRow call n e p q db), db' = db.addEvent _ h :=
  Database.insertEventRow_ok

/-- A snapshot is inserted exactly when its texts can be converted and the constraints of its row
are met. The id comes from the sequence, which may have gaps. -/
theorem insertSnapshot_ok {X : Externals} {call : Call} {snap : Snapshot} {id : Nat}
    {db db' : Database} : insertSnapshot X call snap db = .ok (id, db') ↔
      ∃ row, SnapshotRow.ofSnapshot X
        (lastId (db.snapshots.map (·.id)) + 1 + call.gap) call.now snap
          = .ok row ∧ id = row.id ∧ ∃ h : db.SnapshotAllowed row, db' = db.addSnapshot row h := by
  simp only [insertSnapshot, bind_eq_ok, Database.insertSnapshotRow_ok]
  constructor
  · rintro ⟨row, hr, _, ⟨h, rfl⟩, ⟨⟩⟩
    exact ⟨row, hr, rfl, h, rfl⟩
  · rintro ⟨row, hr, rfl, h, rfl⟩
    exact ⟨row, hr, _, ⟨h, rfl⟩, rfl⟩

/-- An upsert that goes through writes one row of `objects`, and nothing else. -/
theorem upsertObject_ok {row : ObjectRow} {db db' : Database} :
    upsertObject row db = .ok db' → IsInt32 row.noradCatId ∧
      db'.objects = db.objects.upsert row row.onConflict row.onConflict_noradCatId ∧
      db'.snapshots = db.snapshots ∧ db'.audtEvents = db.audtEvents ∧
      db'.pollerState = db.pollerState := by
  unfold upsertObject
  split
  · next h =>
    rintro ⟨⟩
    exact ⟨h, rfl, rfl, rfl, rfl⟩
  · nofun

/-- The cursor is moved exactly to a number that its column takes, in the row of the GP poller,
which is added when it is not there. -/
theorem advanceGpRotationCursor_ok {c : Int} {now : Timestamp} {db db' : Database} :
    advanceGpRotationCursor c now db = .ok db' ↔ IsInt32 c ∧
      db' = db.withPollerState (db.pollerState.upsert ⟨"gp", now, some c⟩
        (fun row => { row with rotationCursor := some c }) fun _ => rfl) := by
  unfold advanceGpRotationCursor integerColumn
  split
  · next h => simp [bind, Except.bind, pure, Except.pure, h, eq_comm]
  · next h => simp [bind, Except.bind, h]

/-- The row of a poller that was just stamped. -/
theorem find?_markPollerRun (pollerName : String) (now : Timestamp) (db : Database) :
    ∃ row, (markPollerRun pollerName now db).pollerState.find? pollerName = some row ∧
      row.lastRunAt = now := by
  refine ⟨_, db.pollerState.find?_upsert_self ⟨pollerName, now, none⟩
    (fun row => { row with lastRunAt := now }) fun _ => rfl, ?_⟩
  cases db.pollerState.find? pollerName <;> rfl

/-- The cursor after it was advanced. -/
theorem rotationCursor_advance {c : Int} {now : Timestamp} {db db' : Database}
    (h : advanceGpRotationCursor c now db = .ok db') : db'.rotationCursor = some c := by
  obtain ⟨-, rfl⟩ := advanceGpRotationCursor_ok.1 h
  unfold Database.rotationCursor Database.withPollerState
  rw [Table.find?_upsert, if_pos rfl]
  cases db.pollerState.find? "gp" <;> rfl

end Sql

/-! ## Methods -/

namespace DbWriter

/-- `upsert_objects_from_satcat`, one transaction for the whole batch. -/
def upsertObjectsFromSatcat (X : Externals) (registry : RuleRegistry ObjectState)
    (objs : List ObjectRecord) : Job (List DetectedEvent) :=
  if objs = [] then pure []
  else transaction fun call db => Sql.upsertObjectsFromSatcat X registry call objs db

/-- `get_last_snapshot`. -/
def getLastSnapshot (X : Externals) (noradCatId : Int) : Job (Option Snapshot) :=
  query fun _ db => Sql.getLastSnapshot X noradCatId db

/-- `insert_snapshot`, a transaction of its own. -/
def insertSnapshot (X : Externals) (snap : Snapshot) : Job Nat :=
  transaction fun call db => Sql.insertSnapshot X call snap db

/-- `insert_event`, a transaction of its own. -/
def insertEvent (noradCatId : Int) (event : DetectedEvent) (prevSnapshotId : Option Nat)
    (newSnapshotId : Nat) : Job Unit :=
  transaction fun call db =>
    ((), ·) <$> Sql.insertEvent call noradCatId event prevSnapshotId (some newSnapshotId) db

/-- `is_poller_due`, by the clock of the database. -/
def isPollerDue (pollerName : String) (interval : Timestamp) : Job Bool :=
  query fun call db => Sql.isPollerDue pollerName interval call.now db

/-- `mark_poller_run`, by the clock of the database. -/
def markPollerRun (pollerName : String) : Job Unit :=
  transaction fun call db => .ok ((), Sql.markPollerRun pollerName call.now db)

/-- `next_gp_rotation_batch`. -/
def nextGpRotationBatch (batchSize : Nat) (excludeIds : List Int) : Job (List Int) :=
  query fun _ db => Sql.nextGpRotationBatch batchSize excludeIds db

/-- `top_gp_hot_targets`. -/
def topGpHotTargets (limit : Nat) : Job (List Int) :=
  query fun _ db => Sql.topGpHotTargets limit db

/-- `advance_gp_rotation_cursor`, a transaction of its own. -/
def advanceGpRotationCursor (newCursor : Int) : Job Unit :=
  transaction fun call db => ((), ·) <$> Sql.advanceGpRotationCursor newCursor call.now db

end DbWriter

end VitaleBackend
