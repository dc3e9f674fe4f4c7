import VitaleBackend.Api.Hits
import VitaleBackend.Poller.Commits

/-!
# What commits leave behind

No transaction of the services takes away what another one has stored. `Database.Grows` says what
is kept: the rows of `snapshots` and of `audt_events` as they are and where they are, and the rows
of `objects` with their fixed columns and their hits (`Commits.grows`). The generated ids tell the
events apart (`Reachable.distinctEvents`).
-/

namespace VitaleBackend

open Process Relational

/-! ## The order of tables -/

/-- A stored row is still there, with its fixed columns and no fewer hits. -/
structure ObjectRow.LivesOn (row row' : ObjectRow) : Prop where
  fixed : row'.fixed = row.fixed
  hitCount : row.hitCount ≤ row'.hitCount

/-- A row that is left alone lives on. -/
theorem ObjectRow.LivesOn.refl (row : ObjectRow) : row.LivesOn row := ⟨rfl, le_refl _⟩

/-- A row that lives on twice lives on. -/
theorem ObjectRow.LivesOn.trans {a b c : ObjectRow} (h : a.LivesOn b) (h' : b.LivesOn c) :
    a.LivesOn c :=
  ⟨h'.fixed.trans h.fixed, h.hitCount.trans h'.hitCount⟩

/-- Every row of a catalogue lives on in another one. -/
def ObjectsGrow (objects objects' : Objects) : Prop :=
  ∀ n row, objects.find? n = some row → ∃ row', objects'.find? n = some row' ∧ row.LivesOn row'

/-- A catalogue that is left alone grows. -/
theorem ObjectsGrow.refl (objects : Objects) : ObjectsGrow objects objects :=
  fun _ row h => ⟨row, h, .refl row⟩

/-- A catalogue that grows twice grows. -/
theorem ObjectsGrow.trans {a b c : Objects} (h : ObjectsGrow a b) (h' : ObjectsGrow b c) :
    ObjectsGrow a c := by
  intro n row hrow
  obtain ⟨row', hrow', hlives⟩ := h n row hrow
  obtain ⟨row'', hrow'', hlives'⟩ := h' n row' hrow'
  exact ⟨row'', hrow'', hlives.trans hlives'⟩

/-- No object is taken from a catalogue that grows. -/
theorem ObjectsGrow.mem_keys {objects objects' : Objects} (h : ObjectsGrow objects objects')
    {n : Int} (hn : n ∈ objects.keys) : n ∈ objects'.keys := by
  obtain ⟨row, hrow⟩ := Table.exists_find? hn
  obtain ⟨row', hrow', -⟩ := h n row hrow
  exact Table.mem_keys.2 ⟨row', Table.find?_eq_some.1 hrow'⟩

namespace Database

/-- Nothing that was stored is gone. -/
structure Grows (db db' : Database) : Prop where
  objects : ObjectsGrow db.objects db'.objects
  snapshots : db.snapshots <+: db'.snapshots
  audtEvents : db.audtEvents <+: db'.audtEvents

/-- Tables that are left alone grow. -/
theorem Grows.refl (db : Database) : db.Grows db :=
  ⟨.refl _, List.prefix_refl _, List.prefix_refl _⟩

/-- Tables that grow twice grow. -/
theorem Grows.trans {a b c : Database} (h : a.Grows b) (h' : b.Grows c) : a.Grows c :=
  ⟨h.objects.trans h'.objects, h.snapshots.trans h'.snapshots, h.audtEvents.trans h'.audtEvents⟩

/-- Growing is a frame for jobs that do nothing. -/
instance : Std.Refl Grows := ⟨Grows.refl⟩

/-- Growing is a frame for jobs in a row. -/
instance : IsTrans Database Grows := ⟨fun _ _ _ => Grows.trans⟩

end Database

/-! ## The statements of a commit -/

/-- What each statement that writes does to the tables is within `Q`. -/
structure StatementFrame (X : Externals) (Q : Database → Database → Prop) : Prop where
  event : ∀ call n e p q db db', Sql.insertEvent call n e p q db = .ok db' → Q db db'
  object : ∀ row db db', Sql.upsertObject row db = .ok db' → Q db db'
  snapshot : ∀ call snap db id db', Sql.insertSnapshot X call snap db = .ok (id, db') → Q db db'
  pollerState : ∀ db pollerState, Q db (db.withPollerState pollerState)
  hit : ∀ noradCatId db, Q db (Sql.countHit noradCatId db)

section
variable {X : Externals} {Q : Database → Database → Prop} [Std.Refl Q] [IsTrans Database Q]

/-- The events of a record are inserted one by one, each within the frame. -/
theorem StatementFrame.insertSatcatEvents (h : StatementFrame X Q) {call : Call} {n : Int}
    {events : List DetectedEvent} {db db' : Database}
    (hins : Sql.insertSatcatEvents call n events db = .ok db') : Q db db' := by
  induction events generalizing db with
  | nil =>
    cases hins
    exact refl_of Q _
  | cons e events ih =>
    obtain ⟨db₁, h₁, h₂⟩ := bind_eq_ok.1 hins
    exact trans_of Q (h.event _ _ _ _ _ _ _ h₁) (ih h₂)

/-- A batch is within what its statements are. -/
theorem StatementFrame.batch (h : StatementFrame X Q) {registry : RuleRegistry ObjectState}
    {call : Call} {objs : List ObjectRecord} {db db' : Database} {events : List DetectedEvent}
    (hbatch : Sql.upsertObjectsFromSatcat X registry call objs db = .ok (events, db')) :
    Q db db' := by
  induction objs generalizing db events with
  | nil =>
    cases hbatch
    exact refl_of Q _
  | cons obj objs ih =>
    obtain ⟨e₁, db₁, e₂, hrow, hrest, -⟩ := upsertObjectsFromSatcat_cons_ok.1 hbatch
    simp only [Sql.upsertRow, bind_eq_ok] at hrow
    obtain ⟨db₂, hevents, row, -, db₃, hobject, ⟨⟩⟩ := hrow
    exact trans_of Q (trans_of Q (h.insertSatcatEvents hevents) (h.object _ _ _ hobject)) (ih hrest)

/-- So a commit is within the frame, whatever transaction it ends. -/
theorem StatementFrame.commit (h : StatementFrame X Q) {db db' : Database}
    (hcommit : Commit X db db') : Q db db' := by
  cases hcommit with
  | batch hbatch => exact h.batch hbatch
  | snapshot hsnapshot => exact h.snapshot _ _ _ _ _ hsnapshot
  | event hevent => exact h.event _ _ _ _ _ _ _ hevent
  | stamp pollerName now => exact h.pollerState db _
  | cursor hcursor =>
    obtain ⟨-, rfl⟩ := Sql.advanceGpRotationCursor_ok.1 hcursor
    exact h.pollerState db _
  | hit noradCatId => exact h.hit noradCatId db

/-- So are any number of commits, by induction on them. -/
theorem StatementFrame.commits (h : StatementFrame X Q) {db db' : Database}
    (hcommits : Commits X db db') : Q db db' := by
  induction hcommits with
  | refl => exact refl_of Q db
  | tail _ hcommit ih => exact trans_of Q ih (h.commit hcommit)

end

/-! ## Growth -/

/-- The upsert of a row leaves every row with its fixed columns and its hits. -/
theorem objectsGrow_upsert (objects : Objects) (row : ObjectRow) :
    ObjectsGrow objects (objects.upsert row row.onConflict row.onConflict_noradCatId) := by
  intro n old hold
  rw [Table.find?_upsert, hold]
  split
  · exact ⟨_, rfl, rfl, le_refl _⟩
  · exact ⟨old, rfl, .refl old⟩

/-- After a hit each object is found with its hits counted. -/
theorem find?_countHit_row (n k : Int) (db : Database) :
    (Sql.countHit n db).objects.find? k = (db.objects.find? k).map (ObjectRow.countHit n) :=
  Table.find?_update _ _ (ObjectRow.countHit_noradCatId n) _

/-- A hit keeps every row, and counts one more for one of them. -/
theorem objectsGrow_countHit (n : Int) (db : Database) :
    ObjectsGrow db.objects (Sql.countHit n db).objects := by
  intro k row hrow
  refine ⟨row.countHit n, by rw [find?_countHit_row, hrow, Option.map_some], ?_, ?_⟩
  · unfold ObjectRow.countHit
    split <;> rfl
  · unfold ObjectRow.countHit
    split
    · exact (Int.lt_succ _).le
    · exact le_refl _

/-- No statement of the services deletes a row of these tables, or takes hits back. -/
theorem grows_frame (X : Externals) : StatementFrame X Database.Grows where
  event call n e p q db db' h := by
    obtain ⟨ha, rfl⟩ := Sql.insertEvent_ok.1 h
    exact ⟨.refl _, List.prefix_refl _, List.prefix_append _ _⟩
  object row db db' h := by
    obtain ⟨-, hobjects, hsnapshots, hevents, -⟩ := Sql.upsertObject_ok h
    refine ⟨?_, hsnapshots ▸ List.prefix_refl _, hevents ▸ List.prefix_refl _⟩
    rw [hobjects]
    exact objectsGrow_upsert db.objects row
  snapshot call snap db id db' h := by
    obtain ⟨row, -, -, ha, rfl⟩ := Sql.insertSnapshot_ok.1 h
    exact ⟨.refl _, List.prefix_append _ _, List.prefix_refl _⟩
  pollerState db pollerState := ⟨.refl _, List.prefix_refl _, List.prefix_refl _⟩
  hit noradCatId db :=
    ⟨objectsGrow_countHit noradCatId db, List.prefix_refl _, List.prefix_refl _⟩

/-- Whatever is committed, nothing that was stored is gone. -/
theorem Commits.grows {X : Externals} {db db' : Database} (h : Commits X db db') : db.Grows db' :=
  (grows_frame X).commits h

/-! ## Generated ids -/

/-- The ids tell the rows of `audt_events` apart. -/
def Database.DistinctEvents (db : Database) : Prop := (db.audtEvents.map (·.id)).Nodup

/-- The sequence gives an id that is not in use. -/
theorem not_mem_of_lastId {ids : List Nat} {id gap : Nat} (hid : id = lastId ids + 1 + gap) :
    id ∉ ids := by
  intro hmem
  have hle := le_lastId hmem
  omega

/-- Events stay distinct. -/
def KeepsDistinctEvents (db db' : Database) : Prop := db.DistinctEvents → db'.DistinctEvents

/-- Events stay distinct when nothing is done. -/
instance : Std.Refl KeepsDistinctEvents := ⟨fun _ => id⟩

/-- Events stay distinct when two things in a row keep them so. -/
instance : IsTrans Database KeepsDistinctEvents := ⟨fun _ _ _ h h' => h' ∘ h⟩

/-- No statement gives two events one id: an event takes the next one of the sequence, and no other
statement inserts events with ids of its own. -/
theorem distinctEvents_frame (X : Externals) : StatementFrame X KeepsDistinctEvents where
  event call n e p q db db' h hdb := by
    obtain ⟨ha, rfl⟩ := Sql.insertEvent_ok.1 h
    rw [Database.DistinctEvents, Database.addEvent_audtEvents, List.map_append, List.map_singleton,
      ← List.concat_eq_append]
    exact List.Nodup.concat (not_mem_of_lastId rfl) hdb
  object row db db' h hdb := by
    obtain ⟨-, -, -, hevents, -⟩ := Sql.upsertObject_ok h
    rwa [Database.DistinctEvents, hevents]
  snapshot call snap db id db' h hdb := by
    obtain ⟨row, -, -, ha, rfl⟩ := Sql.insertSnapshot_ok.1 h
    exact hdb
  pollerState db pollerState hdb := hdb
  hit noradCatId db hdb := hdb

/-- In all tables that the services can make, the events are distinct. -/
theorem Reachable.distinctEvents {X : Externals} {db : Database} (h : Reachable X db) :
    db.DistinctEvents :=
  (distinctEvents_frame X).commits h List.nodup_nil

end VitaleBackend
