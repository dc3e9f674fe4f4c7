import Mathlib.Data.List.Dedup
import VitaleBackend.Api.Snapshots

/-!
# `/stats`

Two counts by two statements: the objects, and the objects with a snapshot. The second is the number
of objects for which `/objects/<int>/snapshot` finds one (`objectsWithSnapshot_eq`). What is
committed between the statements is in the second count only, so that it may exceed the first, but
never by more objects than were added in between (`stats_inOrder`).
-/

namespace VitaleBackend

open Relational Moments

/-- `SELECT count(*) FROM objects`. -/
def trackedObjects (db : Database) : Nat := db.objects.rows.length

/-- `SELECT count(DISTINCT norad_cat_id) FROM snapshots`. -/
def objectsWithSnapshot (db : Database) : Nat := (db.snapshots.map (·.noradCatId)).dedup.length

/-- The handler. -/
def stats (conn : Except Exn Unit) (atObjects atSnapshots : Database) : JsonResponse :=
  respond conn ⟨200, .obj
    [("tracked_objects", .num (.fin (trackedObjects atObjects))),
      ("objects_with_snapshot", .num (.fin (objectsWithSnapshot atSnapshots)))]⟩

/-- `/objects/<int>/snapshot` finds a snapshot of the object. -/
def HasSnapshot (db : Database) (noradCatId : Int) : Prop :=
  ∃ row, snapshotAnswer noradCatId db db = .found row

section
variable {db db' : Database} {n : Int}

/-- In one state of the tables the endpoint finds the snapshot that the select orders first. -/
theorem snapshotAnswer_eq_found {row : SnapshotRow} : snapshotAnswer n db db = .found row ↔
    Sql.lastSnapshotRow db.snapshots n = some row := by
  cases hlast : Sql.lastSnapshotRow db.snapshots n with
  | some row' => simp [snapshotAnswer_found hlast]
  | none =>
    by_cases hn : n ∈ db.objects.keys
    · simp [snapshotAnswer_noSnapshot hlast hn]
    · simp [snapshotAnswer_noObject hlast hn]

/-- One is found exactly when there is one: the order only decides which. -/
theorem hasSnapshot_iff : HasSnapshot db n ↔ n ∈ db.snapshots.map (·.noradCatId) := by
  simp only [HasSnapshot, snapshotAnswer_eq_found]
  rw [← Option.ne_none_iff_exists', ne_eq, lastSnapshotRow_eq_none, List.mem_map]
  simp

/-- Decided by looking through the table. -/
instance (db : Database) (n : Int) : Decidable (HasSnapshot db n) :=
  decidable_of_iff _ hasSnapshot_iff.symm

/-- The catalogue has as many numbers as rows. -/
theorem length_keys (db : Database) : db.objects.keys.length = trackedObjects db :=
  List.length_map _

/-- The objects with a snapshot are those of the catalogue for which one is found. -/
theorem objectsWithSnapshot_eq (db : Database) :
    objectsWithSnapshot db = (db.objects.keys.filter fun n => HasSnapshot db n).length := by
  refine ((List.perm_ext_iff_of_nodup (List.nodup_dedup _)
    (db.objects.nodup.filter _)).2 fun n => ?_).length_eq
  rw [List.mem_dedup, List.mem_filter, decide_eq_true_eq, hasSnapshot_iff]
  refine ⟨fun hn => ⟨?_, hn⟩, And.right⟩
  obtain ⟨row, hrow, rfl⟩ := List.mem_map.1 hn
  exact db.snapshot_objects row hrow

/-- In one state of the tables the second count does not exceed the first: snapshots belong to
objects. -/
theorem objectsWithSnapshot_le (db : Database) : objectsWithSnapshot db ≤ trackedObjects db := by
  rw [objectsWithSnapshot_eq, ← length_keys]
  exact List.length_filter_le _ _

/-- The keys of a catalogue are among those of one that it has grown into. -/
theorem keys_subset (h : db.Grows db') : db.objects.keys ⊆ db'.objects.keys :=
  fun _ hn => h.objects.mem_keys hn

/-- Rows of `objects` stay, so that the first count does not go down. -/
theorem trackedObjects_mono (h : db.Grows db') : trackedObjects db ≤ trackedObjects db' := by
  rw [← length_keys, ← length_keys]
  exact (db.objects.nodup.subperm (keys_subset h)).length_le

/-- Rows of `snapshots` stay too, so that the second count does not go down either. -/
theorem objectsWithSnapshot_mono (h : db.Grows db') :
    objectsWithSnapshot db ≤ objectsWithSnapshot db' := by
  refine ((List.nodup_dedup _).subperm fun n hn => ?_).length_le
  rw [List.mem_dedup] at hn ⊢
  exact (h.snapshots.sublist.map _).subset hn

/-- The objects that a catalogue has more than an earlier one. -/
def addedObjects (before after : Database) : Nat :=
  (after.objects.keys.filter fun n => n ∉ before.objects.keys).length

/-- What the catalogue has later is what it had and what was added. -/
theorem trackedObjects_add (h : db.Grows db') :
    trackedObjects db' = trackedObjects db + addedObjects db db' := by
  have hold : (db'.objects.keys.filter fun n => n ∈ db.objects.keys).length =
      db.objects.keys.length := by
    refine ((List.perm_ext_iff_of_nodup (db'.objects.nodup.filter _)
      db.objects.nodup).2 fun n => ?_).length_eq
    rw [List.mem_filter, decide_eq_true_eq]
    exact and_iff_right_of_imp fun hn => keys_subset h hn
  have hnew : addedObjects db db' =
      (db'.objects.keys.filter fun n => !decide (n ∈ db.objects.keys)).length :=
    congrArg List.length (List.filter_congr fun _ _ => decide_not)
  rw [hnew, ← length_keys, ← length_keys, ← hold]
  exact List.length_eq_length_filter_add _

end

/-! ## The requests of a client -/

/-- A request for the counts, and the tables that its statements see. -/
structure StatsRead where
  atObjects : Database
  atSnapshots : Database

/-- What a client can rely on: the response has the two counts, neither of them goes down, the
second is the number of objects whose snapshot is found by then, and it exceeds the first by no more
than the objects added between the two statements. -/
structure StatsInOrder (qs : List StatsRead) : Prop where
  response : ∀ q ∈ qs, stats (.ok ()) q.atObjects q.atSnapshots = ⟨200, .obj
    [("tracked_objects", .num (.fin (trackedObjects q.atObjects))),
      ("objects_with_snapshot", .num (.fin (objectsWithSnapshot q.atSnapshots)))]⟩
  tracked : (qs.map fun q => trackedObjects q.atObjects).Pairwise (· ≤ ·)
  covered : (qs.map fun q => objectsWithSnapshot q.atSnapshots).Pairwise (· ≤ ·)
  found : ∀ q ∈ qs, objectsWithSnapshot q.atSnapshots =
    (q.atSnapshots.objects.keys.filter fun n => HasSnapshot q.atSnapshots n).length
  bounded : ∀ q ∈ qs, objectsWithSnapshot q.atSnapshots ≤
    trackedObjects q.atObjects + addedObjects q.atObjects q.atSnapshots

/-- However the commits of the services come between the statements of a client's requests, the
counts that it reads are in order. -/
theorem stats_inOrder {X : Externals} {qs : List StatsRead}
    (h : IsSession (Commit X) StatsRead.atObjects StatsRead.atSnapshots qs) : StatsInOrder qs where
  response _ _ := rfl
  tracked := h.answers_pairwise
    (fun _ _ hcommit => trackedObjects_mono ((grows_frame X).commit hcommit))
    fun q hq => ⟨q.atObjects, .refl, h.lasts q hq, rfl⟩
  covered := h.answers_pairwise
    (fun _ _ hcommit => objectsWithSnapshot_mono ((grows_frame X).commit hcommit))
    fun q hq => ⟨q.atSnapshots, h.lasts q hq, .refl, rfl⟩
  found q _ := objectsWithSnapshot_eq q.atSnapshots
  bounded q hq := by
    rw [← trackedObjects_add (Commits.grows (h.lasts q hq))]
    exact objectsWithSnapshot_le q.atSnapshots

open SnapshotsFixture in
/-- Two requests for the counts, with a snapshot stored during the first. -/
theorem stats_inOrder_first : StatsInOrder [⟨before, after⟩, ⟨after, after⟩] :=
  @stats_inOrder externals _
    ⟨List.forall_mem_cons.2 ⟨.single commit, List.forall_mem_singleton.2 .refl⟩,
      .cons_cons .refl (.singleton _)⟩

end VitaleBackend
