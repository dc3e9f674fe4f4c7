import VitaleBackend.Api.Detail
import VitaleBackend.Api.Events
import VitaleBackend.Api.Snapshots
import VitaleBackend.Poller.Featured
import VitaleBackend.Poller.Rotation

/-!
# What the queries leave open

Postgres may store rows in any order and read them by any plan, so that a query says no more than
`IsSelect` does. The orders that end in `norad_cat_id` tell all objects apart, and what is listed or
requested by them is determined by the contents of the tables (`objects_determined`). The orders by
a time are not of this kind: of them only the times are determined (`times_determined`).
-/

namespace VitaleBackend

open Relational

/-! ## Orders that tell objects apart -/

/-- Any two objects can be ranked one before the other by their hits. -/
instance : Std.Total mostHitsFirst := ⟨fun a b => by unfold mostHitsFirst; omega⟩

/-- The ranking by hits is transitive. -/
instance : IsTrans ObjectRow mostHitsFirst := ⟨fun a b c => by unfold mostHitsFirst; omega⟩

/-- Objects that come before each other have one number. -/
def EndsInId (le : ObjectRow → ObjectRow → Prop) : Prop :=
  ∀ a b, le a b → le b a → a.noradCatId = b.noradCatId

/-- `ORDER BY norad_cat_id` is nothing but the number. -/
theorem byNoradCatId_endsInId : EndsInId Sql.byNoradCatId := fun _ _ h h' => le_antisymm h h'

/-- `/objects/popular` breaks its ties by the number. -/
theorem mostHitsFirst_endsInId : EndsInId mostHitsFirst := by
  intro a b
  unfold mostHitsFirst
  omega

/-- So does `/objects/top-events`. -/
theorem mostEventsFirst_endsInId (db : Database) : EndsInId (mostEventsFirst db) := by
  intro a b
  unfold mostEventsFirst
  omega

/-- So does `top_gp_hot_targets`, whose first two keys are the flag and the hits. -/
theorem hotFirst_endsInId : EndsInId Sql.hotFirst := by
  intro a b
  unfold Sql.hotFirst
  cases a.featured <;> cases b.featured <;> simp only [reduceCtorEq, true_and, false_and,
    and_self, and_false, false_or, or_false, false_implies, implies_true]
  all_goals omega

section
variable {le : ObjectRow → ObjectRow → Prop} [DecidableRel le] [Std.Total le]
  [IsTrans ObjectRow le] {db : Database} {rows shown : List ObjectRow}

/-- Whatever order the objects are stored in, a select of those with some property by such an order
has one answer. -/
theorem EndsInId.select_eq (h : EndsInId le) (hrows : rows.Perm db.objects.rows)
    (p : ObjectRow → Bool) {limit : Nat} (hselect : IsSelect le limit (rows.filter p) shown) :
    shown = firstBy le limit (db.objects.rows.filter p) := by
  refine (hselect.of_perm (hrows.filter p)).eq_firstBy fun a ha b hb hab hba => ?_
  exact Table.eq_of_key (List.mem_filter.1 ha).1 (List.mem_filter.1 hb).1 (h a b hab hba)

/-- The same of a select of all objects. -/
theorem EndsInId.selectAll_eq (h : EndsInId le) (hrows : rows.Perm db.objects.rows) {limit : Nat}
    (hselect : IsSelect le limit rows shown) : shown = firstBy le limit db.objects.rows := by
  refine (hselect.of_perm hrows).eq_firstBy fun a ha b hb hab hba => ?_
  exact Table.eq_of_key ha hb (h a b hab hba)

end

/-! ## The queries on objects -/

/-- The `WHERE` of `top_gp_hot_targets`. -/
def hotWhere (o : ObjectRow) : Bool :=
  decide (o.decayDate.isNone ∧ (o.featured = true ∨ 0 < o.hitCount))

/-- The `WHERE` of the selects of `next_gp_rotation_batch`. -/
def targetWhere (lowerBound : Option Int) (excludeIds : List Int) (o : ObjectRow) : Bool :=
  decide (o.decayDate.isNone ∧ (∀ c ∈ lowerBound, c < o.noradCatId) ∧ o.noradCatId ∉ excludeIds)

/-- Each of the queries on objects comes back with what the contents of the tables say, in whatever
order the rows are stored. The fields on handlers say so of their responses. -/
structure ObjectsDetermined (X : Externals) (db : Database) (rows : List ObjectRow) : Prop where
  objects : ∀ shown, IsSelect Sql.byNoradCatId rows.length rows shown →
    shown.map (objectRowToJson X) = objectsList X db ∧
      shown.map (catalogRowToJson X) = catalogObjects X db
  popular : ∀ limit shown, IsSelect mostHitsFirst limit rows shown →
    shown.map (objectRowToJson X) = popularObjects X db limit
  topEvents : ∀ limit shown,
    IsSelect (mostEventsFirst db) limit (rows.filter fun o => 0 < eventCount db o) shown →
      shown = topEventsRows db limit
  hotTargets : ∀ limit shown, IsSelect Sql.hotFirst limit (rows.filter hotWhere) shown →
    shown.map (·.noradCatId) = Sql.topGpHotTargets limit db
  rotationBatch : ∀ batchSize excludeIds primary wrap,
    IsSelect Sql.byNoradCatId batchSize
      (rows.filter (targetWhere (some (db.rotationCursor.getD (-1))) excludeIds)) primary →
    IsSelect Sql.byNoradCatId (batchSize - primary.length)
      (rows.filter (targetWhere none excludeIds)) wrap →
    (if primary.length < batchSize then primary ++ wrap else primary).map (·.noradCatId) =
      Sql.nextGpRotationBatch batchSize excludeIds db
  objectsResponse : ∀ shown, IsSelect Sql.byNoradCatId rows.length rows shown →
    VitaleBackend.objects X (.ok ()) db =
      ⟨200, .obj [("objects", .arr (shown.map (objectRowToJson X)))]⟩
  catalogResponse : ∀ req now shown, IsSelect Sql.byNoradCatId rows.length rows shown →
    catalog X req (.ok now) db =
      VitaleBackend.catalogResponse req (catalogMeta now db) (shown.map (catalogRowToJson X))
  popularResponse : ∀ select : Nat → List ObjectRow,
    (∀ limit, IsSelect mostHitsFirst limit rows (select limit)) → ∀ limitParam,
      VitaleBackend.popular X limitParam (.ok ()) db =
        topN (fun limit => (select limit).map (objectRowToJson X)) limitParam (.ok ())
  topEventsResponse : ∀ select : Nat → List ObjectRow,
    (∀ limit, IsSelect (mostEventsFirst db) limit (rows.filter fun o => 0 < eventCount db o)
      (select limit)) → ∀ limitParam,
      VitaleBackend.topEvents X limitParam (.ok ()) db =
        topN (fun limit => (select limit).map fun row => (objectRowToJson X row).insert
          "event_count" (.num (.fin (eventCount db row)))) limitParam (.ok ())

/-- The selects of the rotation, as sets of rows. -/
theorem selectTargets_map (db : Database) (lowerBound : Option Int) (excludeIds : List Int)
    (limit : Nat) : Sql.selectTargets db.objects lowerBound excludeIds limit =
      (firstBy Sql.byNoradCatId limit
        (db.objects.rows.filter (targetWhere lowerBound excludeIds))).map (·.noradCatId) := rfl

section
variable {db : Database} {rows shown : List ObjectRow}

/-- A list of all objects by their number. -/
theorem all_eq (h : rows.Perm db.objects.rows)
    (hselect : IsSelect Sql.byNoradCatId rows.length rows shown) :
    shown = db.objects.rows.insertionSort Sql.byNoradCatId := by
  rw [byNoradCatId_endsInId.selectAll_eq h hselect, firstBy, h.length_eq,
    List.take_of_length_le]
  rw [List.length_insertionSort]

end

/-- What is listed of the objects, and what is requested, depends on the contents of the tables
only. -/
theorem objects_determined (X : Externals) {db : Database} {rows : List ObjectRow}
    (h : rows.Perm db.objects.rows) : ObjectsDetermined X db rows where
  objects shown hselect := by
    rw [all_eq h hselect]
    exact ⟨rfl, rfl⟩
  popular limit shown hselect := by
    rw [mostHitsFirst_endsInId.selectAll_eq h hselect, popularObjects]
  topEvents limit shown hselect := (mostEventsFirst_endsInId db).select_eq h _ hselect
  hotTargets limit shown hselect := by
    rw [hotFirst_endsInId.select_eq h _ hselect]
    rfl
  rotationBatch batchSize excludeIds primary wrap hprimary hwrap := by
    have heq := byNoradCatId_endsInId.select_eq h _ hprimary
    have heq' := byNoradCatId_endsInId.select_eq h _ hwrap
    have hlen : (Sql.primaryTargets batchSize excludeIds db).length = primary.length := by
      rw [Sql.primaryTargets, selectTargets_map, List.length_map, ← heq]
    rw [Sql.nextGpRotationBatch, hlen]
    split
    · rw [List.map_append, heq', selectTargets_map, Sql.primaryTargets, selectTargets_map, ← heq]
    · rw [Sql.primaryTargets, selectTargets_map, ← heq]
  objectsResponse shown hselect := by
    rw [all_eq h hselect]
    rfl
  catalogResponse req now shown hselect := by
    rw [all_eq h hselect]
    rfl
  popularResponse select hselect limitParam := by
    have heq : select = fun limit => firstBy mostHitsFirst limit db.objects.rows :=
      funext fun limit => mostHitsFirst_endsInId.selectAll_eq h (hselect limit)
    rw [heq]
    rfl
  topEventsResponse select hselect limitParam := by
    have heq : select = topEventsRows db :=
      funext fun limit => (mostEventsFirst_endsInId db).select_eq h _ (hselect limit)
    rw [heq]
    rfl

namespace SelectsFixture

/-- The objects 5, which was viewed, and 7, which was not. -/
def objects : Objects :=
  (Table.single (RotationFixture.object 1)).insert { RotationFixture.object 0 with noradCatId := 7 }
    (by decide)

/-- The numbers of both objects are numbers that the column takes. -/
theorem object_ids : ∀ k ∈ objects.keys, IsInt32 k := by
  simp only [objects, Table.keys_insert, Table.keys_single, List.forall_mem_append,
    List.forall_mem_singleton]
  exact ⟨show IsInt32 5 by decide, show IsInt32 7 by decide⟩

/-- The tables with these objects and nothing else. -/
def catalogue : Database := .ofObjects objects object_ids

/-- Two snapshots of one time. -/
def twins : Database :=
  SnapshotsFixture.after.addSnapshot { SnapshotsFixture.row with id := 2, gpId := 2 }
    (by decide +kernel)

end SelectsFixture

open SelectsFixture in
/-- The tables with their rows stored in the reverse order. -/
theorem objects_determined_backwards :
    ObjectsDetermined SnapshotsFixture.externals catalogue catalogue.objects.rows.reverse :=
  objects_determined SnapshotsFixture.externals (List.reverse_perm _)

/-! ## The queries by time -/

/-- The queries by time come back with the times that the contents of the tables say, and the list
of events with all the events of the object. -/
structure TimesDetermined (db : Database) (noradCatId : Int) (snapshots : List SnapshotRow)
    (events : List EventRow) : Prop where
  snapshot : ∀ shown, IsSelect Sql.latestFirst 1 (snapshots.filter (·.noradCatId = noradCatId))
      shown → shown.map (·.epoch) =
        (Sql.lastSnapshotRow db.snapshots noradCatId).toList.map (·.epoch)
  events : ∀ shown, IsSelect newestFirst (events.filter (·.noradCatId = noradCatId)).length
      (events.filter (·.noradCatId = noradCatId)) shown →
    shown.Perm (eventRows noradCatId db) ∧
      shown.map (·.eventTime) = (eventRows noradCatId db).map (·.eventTime)

/-- Latest first, for bare times. -/
def laterFirst (s t : Timestamp) : Prop := t ≤ s

/-- Times are compared as integers. -/
instance : DecidableRel laterFirst := fun s t => inferInstanceAs (Decidable (t ≤ s))

/-- Any two times can be listed in one of the two orders. -/
instance : Std.Total laterFirst := ⟨fun s t => Int.le_total t s⟩

/-- The reverse order of times is transitive. -/
instance : IsTrans Timestamp laterFirst := ⟨fun _ _ _ h h' => Int.le_trans h' h⟩

/-- Two answers of one select by time have the same times. -/
theorem IsSelect.times_eq {α : Type} {le : α → α → Prop} {f : α → Timestamp}
    (hf : ∀ a b, le a b → laterFirst (f a) (f b)) {n : Nat} {l shown shown' : List α}
    (h : IsSelect le n l shown) (h' : IsSelect le n l shown') : shown.map f = shown'.map f := by
  have hanti : ∀ s ∈ l.map f, ∀ t ∈ l.map f, laterFirst s t → laterFirst t s → s = t :=
    fun _ _ _ _ hst hts => le_antisymm hts hst
  rw [(h.map hf).eq_firstBy hanti, (h'.map hf).eq_firstBy hanti]

/-- Of the snapshot that is served and of the events that are listed the times are determined, in
whatever order the rows are stored. -/
theorem times_determined {db : Database} (noradCatId : Int) {snapshots : List SnapshotRow}
    {events : List EventRow} (hs : snapshots.Perm db.snapshots)
    (he : events.Perm db.audtEvents) : TimesDetermined db noradCatId snapshots events where
  snapshot shown hselect := by
    have hfirst := isSelect_firstBy Sql.latestFirst 1
      (db.snapshots.filter (·.noradCatId = noradCatId))
    rw [IsSelect.times_eq (fun _ _ => id) (hselect.of_perm (hs.filter _)) hfirst,
      Sql.lastSnapshotRow]
    have hlen := firstBy_length Sql.latestFirst 1
      (db.snapshots.filter (·.noradCatId = noradCatId))
    rcases hrows : firstBy Sql.latestFirst 1
      (db.snapshots.filter (·.noradCatId = noradCatId)) with _ | ⟨row, _ | ⟨row', rows⟩⟩
    · rfl
    · rfl
    · rw [hrows] at hlen
      simp only [List.length_cons] at hlen
      omega
  events shown hselect := by
    have hperm := he.filter fun e => decide (e.noradCatId = noradCatId)
    refine ⟨hselect.perm.trans (hperm.trans (eventRows_perm noradCatId db).symm), ?_⟩
    have hfirst := isSelect_firstBy newestFirst
      (events.filter (·.noradCatId = noradCatId)).length
      (db.audtEvents.filter (·.noradCatId = noradCatId))
    rw [IsSelect.times_eq (fun _ _ => id) (hselect.of_perm hperm) hfirst, firstBy, eventRows,
      List.take_of_length_le]
    rw [List.length_insertionSort, hperm.length_eq]

open SelectsFixture in
/-- Two snapshots of one time, stored in the reverse order: only the time is determined. -/
theorem times_determined_twins :
    TimesDetermined twins 5 twins.snapshots.reverse twins.audtEvents :=
  times_determined 5 (List.reverse_perm _) .rfl

end VitaleBackend
