import VitaleBackend.Poller.Request
import VitaleBackend.Poller.Upsert

/-!
# The featured objects

Migration 007 adds the column `featured` and sets it, once, in the rows of a seed list; a SATCAT
batch inserts its rows with the default. What is featured in the end are the seeded objects that
were in the table when the migration ran (`FeaturedFrom`), so that every seeded object is featured
exactly when none of them came later (`seedFeatured_iff`). On an empty table that is none.
-/

namespace VitaleBackend

open Relational Sql

/-! ## The migration -/

/-- The seed list of migration 007. -/
def featuredSeed : List Int :=
  [5, 7530, 8820, 22195,
   20580, 50463, 25867, 28485, 33053, 38358, 43435, 49954,
   22675, 38486, 24946, 38229, 25730, 31378, 22236, 26998,
   28884, 22927, 27820, 41748,
   37348, 65271, 49330, 62485,
   25544, 26400, 49044, 48274, 53239, 54216,
   25994, 27386, 49260, 41866,
   43873,
   49187, 58214, 68924]

/-- `ALTER TABLE objects ADD COLUMN featured BOOLEAN NOT NULL DEFAULT false`. -/
def addFeaturedColumn (objects : Objects) : Objects :=
  objects.update (fun row => { row with featured := false }) fun _ => rfl

/-- `UPDATE objects SET featured = true WHERE norad_cat_id IN (...)`. -/
def markFeatured (objects : Objects) : Objects :=
  objects.update
    (fun row => { row with featured := decide (row.noradCatId ∈ featuredSeed) || row.featured })
    fun _ => rfl

/-- Migration 007. The tables before it have no column `featured`: whatever the rows have in its
place is gone afterwards. -/
def addFeaturedObjects (db : Database) : Database :=
  db.withObjects (markFeatured (addFeaturedColumn db.objects))
    (by
      unfold markFeatured addFeaturedColumn
      rw [Table.keys_update, Table.keys_update]
      exact db.object_ids)
    fun k hk => by
      unfold markFeatured addFeaturedColumn
      rw [Table.keys_update, Table.keys_update]
      exact hk

/-- The migration adds no object and takes none away. -/
theorem addFeaturedObjects_keys (db : Database) :
    (addFeaturedObjects db).objects.keys = db.objects.keys := by
  show (markFeatured (addFeaturedColumn db.objects)).keys = _
  rw [markFeatured, addFeaturedColumn, Table.keys_update, Table.keys_update]

/-- The migration sets the flag of every row that there is: on for the numbers of its list, off for
all others. -/
theorem addFeaturedObjects_find? (db : Database) (x : Int) :
    (addFeaturedObjects db).objects.find? x = (db.objects.find? x).map fun row =>
      { row with featured := decide (row.noradCatId ∈ featuredSeed) } := by
  show (markFeatured (addFeaturedColumn db.objects)).find? x = _
  rw [markFeatured, addFeaturedColumn, Table.find?_update, Table.find?_update, Option.map_map]
  refine congrFun (congrArg Option.map (funext fun row => ?_)) _
  simp only [Function.comp_apply, Bool.or_false]

/-! ## SATCAT batches -/

/-- Successful SATCAT batches, one after another. -/
inductive Batches (X : Externals) : List (Call × List ObjectRecord) → Database → Database → Prop
  | nil : Batches X [] db db
  | cons : Sql.upsertObjectsFromSatcat X makeDefaultObjectRuleRegistry call objs db =
      .ok (events, db₁) → Batches X batches db₁ db' → Batches X ((call, objs) :: batches) db db'

section
variable {X : Externals} {batches : List (Call × List ObjectRecord)} {db db' : Database}

/-- The numbers in the catalogue after some batches. -/
theorem Batches.mem_keys (h : Batches X batches db db') (k : Int) : k ∈ db'.objects.keys ↔
    k ∈ db.objects.keys ∨ ∃ b ∈ batches, ∃ obj ∈ b.2, obj.noradCatId = k := by
  induction h with
  | nil => simp
  | cons hb _ ih => rw [ih, upsertObjectsFromSatcat_keys hb, List.exists_mem_cons_iff, or_assoc]

/-- What every upsert of a row preserves, batches do. -/
theorem Batches.preserves {P : Database → Prop} (h : Batches X batches db db')
    (hrow : ∀ call obj db db',
      UpsertedRow X makeDefaultObjectRuleRegistry call obj db db' → P db → P db')
    (hp : P db) : P db' := by
  induction h with
  | nil => exact hp
  | cons hb _ ih =>
    exact ih (upsertObjectsFromSatcat_preserves (fun obj _ => hrow _ obj) hb hp)

end

/-- Of the objects in the catalogue, those are featured that are seeded and were there at some
time. -/
structure FeaturedFrom (there : List Int) (db : Database) : Prop where
  kept : ∀ x ∈ there, x ∈ db.objects.keys
  flags : ∀ x row, db.objects.find? x = some row →
    (row.featured = true ↔ x ∈ featuredSeed ∧ x ∈ there)

/-- The migration features the seeded objects that it finds. -/
theorem featuredFrom_migration (db : Database) :
    FeaturedFrom db.objects.keys (addFeaturedObjects db) where
  kept x hx := addFeaturedObjects_keys db ▸ hx
  flags x row h := by
    rw [addFeaturedObjects_find?, Option.map_eq_some_iff] at h
    obtain ⟨old, hold, rfl⟩ := h
    rw [decide_eq_true_eq, Table.key_of_find? hold]
    have hx : x ∈ db.objects.keys :=
      Table.mem_keys.2 ⟨old, Table.mem_of_find? hold, Table.key_of_find? hold⟩
    exact (and_iff_left hx).symm

/-- The column takes its default in a row that is inserted. -/
theorem ObjectRow.ofRecord_featured {X : Externals} {now : Timestamp} {obj : ObjectRecord}
    {row : ObjectRow} (h : ObjectRow.ofRecord X now obj = .ok row) : row.featured = false := by
  simp only [ObjectRow.ofRecord, bind_eq_ok] at h
  obtain ⟨_, -, _, -, _, -, _, -, _, -, _, -, _, -, _, -, ⟨⟩⟩ := h
  rfl

/-- An upsert features nothing: a row that is inserted takes the default, and one that is updated
keeps its flag. -/
theorem FeaturedFrom.upsertedRow {X : Externals} {registry : RuleRegistry ObjectState} {call : Call}
    {obj : ObjectRecord} {there : List Int} {db db' : Database} (h : FeaturedFrom there db)
    (hrow : UpsertedRow X registry call obj db db') : FeaturedFrom there db' where
  kept x hx := hrow.mem_keys.2 (.inl (h.kept x hx))
  flags x row hfind := by
    obtain ⟨new, hnew, ho⟩ := hrow.row
    rw [ho, Table.find?_upsert] at hfind
    split at hfind
    · next hx =>
      cases hold : db.objects.find? x with
      | none =>
        rw [hold] at hfind
        cases hfind
        refine iff_of_false (by simp [ObjectRow.ofRecord_featured hnew]) fun hseed => ?_
        exact Table.find?_eq_none.1 hold (h.kept x hseed.2)
      | some old =>
        rw [hold] at hfind
        cases hfind
        exact h.flags x old hold
    · exact h.flags x row hfind

/-! ## The hot slice -/

/-- Any two objects can be ordered by flag, hits and number. -/
instance : Std.Total hotFirst where
  total a b := by
    unfold hotFirst
    cases a.featured <;> cases b.featured <;> simp only [reduceCtorEq, true_and, false_and,
      and_self, and_false, false_or, or_false, or_true]
    all_goals omega

/-- The order is transitive. The cases are the flags of the three objects. -/
instance : IsTrans ObjectRow hotFirst where
  trans a b c := by
    unfold hotFirst
    cases a.featured <;> cases b.featured <;> cases c.featured <;> simp only [reduceCtorEq,
      true_and, false_and, and_self, and_false, false_or, or_false, implies_true,
      false_implies, true_implies]
    all_goals omega

/-- A row from which the hot slice is selected. -/
def ObjectRow.Qualifies (o : ObjectRow) : Prop :=
  o.decayDate = none ∧ (o.featured = true ∨ 0 < o.hitCount)

/-- The rows that the `WHERE` of the hot slice leaves. -/
def hotCandidates (db : Database) : List ObjectRow :=
  db.objects.rows.filter fun o => o.decayDate.isNone ∧ (o.featured = true ∨ 0 < o.hitCount)

/-- The rows of the hot slice. -/
def hotRows (limit : Nat) (db : Database) : List ObjectRow :=
  firstBy hotFirst limit (hotCandidates db)

/-- The undecayed rows that are featured. -/
def featuredUndecayed (db : Database) : List ObjectRow :=
  db.objects.rows.filter fun o => o.decayDate.isNone ∧ o.featured = true

section
variable {db : Database} {limit : Nat} {o o' : ObjectRow}

/-- The candidates of the hot slice are the stored objects that qualify. -/
theorem mem_hotCandidates : o ∈ hotCandidates db ↔ o ∈ db.objects.rows ∧ o.Qualifies := by
  rw [hotCandidates, List.mem_filter, decide_eq_true_eq, Option.isNone_iff_eq_none]
  rfl

/-- The featured objects that are not decayed are among them. -/
theorem mem_featuredUndecayed : o ∈ featuredUndecayed db ↔
    o ∈ db.objects.rows ∧ o.decayDate = none ∧ o.featured = true := by
  rw [featuredUndecayed, List.mem_filter, decide_eq_true_eq, Option.isNone_iff_eq_none]

/-- An object is in the slice when its row is. -/
theorem mem_topGpHotTargets_rows (ho : o ∈ db.objects.rows) :
    o.noradCatId ∈ topGpHotTargets limit db ↔ o ∈ hotRows limit db := by
  show o.noradCatId ∈ (hotRows limit db).map (·.noradCatId) ↔ _
  rw [List.mem_map]
  constructor
  · rintro ⟨o', ho', hkey⟩
    have hrow := (mem_hotCandidates.1 (mem_of_mem_firstBy hotFirst ho')).1
    rwa [← Table.eq_of_key hrow ho hkey]
  · exact fun h => ⟨o, h, rfl⟩

/-- The order tells any two rows apart. -/
theorem hotFirst_antisymm (ho : o ∈ db.objects.rows) (ho' : o' ∈ db.objects.rows)
    (h : hotFirst o o') (h' : hotFirst o' o) : o' = o := by
  refine Table.eq_of_key ho' ho ?_
  unfold hotFirst at h h'
  cases hf : o.featured <;> cases hf' : o'.featured <;> simp [hf, hf'] at h h' <;> omega

/-- Only featured rows come before a featured row. -/
theorem hotCandidates_before (hf : o.featured = true) :
    (hotCandidates db).filter (fun b => hotFirst b o) =
      (featuredUndecayed db).filter fun b => hotFirst b o := by
  rw [hotCandidates, featuredUndecayed, List.filter_filter, List.filter_filter]
  refine List.filter_congr fun b _ => ?_
  rw [← Bool.decide_and, ← Bool.decide_and, decide_eq_decide]
  refine and_congr_right fun hb => and_congr_right fun _ => ?_
  have hbf : b.featured = true := by
    rcases hb with ⟨hbf, -⟩ | ⟨hbf, -⟩
    · exact hbf
    · rw [hbf, hf]
  simp [hbf]

/-- The featured rows alone decide whether one of them is taken. -/
theorem mem_hotRows_of_featured (ho : o ∈ db.objects.rows) (hf : o.featured = true) :
    o ∈ hotRows limit db ↔ o ∈ featuredUndecayed db ∧
      ((featuredUndecayed db).filter fun b => hotFirst b o).length ≤ limit := by
  have hnodup : (hotCandidates db).Nodup := db.objects.nodup.of_map.filter _
  have hanti : ∀ b ∈ hotCandidates db, hotFirst o b → hotFirst b o → b = o := fun b hb =>
    hotFirst_antisymm ho (mem_hotCandidates.1 hb).1
  rw [hotRows, mem_firstBy_iff hotFirst hnodup hanti, hotCandidates_before hf, mem_hotCandidates,
    mem_featuredUndecayed, ObjectRow.Qualifies, hf]
  simp

/-- A featured undecayed object is in the hot slice when there are not more of them than it has
slots. -/
theorem mem_topGpHotTargets_of_featured (ho : o ∈ db.objects.rows) (hd : o.decayDate = none)
    (hf : o.featured = true) (hfew : (featuredUndecayed db).length ≤ limit) :
    o.noradCatId ∈ Sql.topGpHotTargets limit db := by
  rw [mem_topGpHotTargets_rows ho, mem_hotRows_of_featured ho hf]
  exact ⟨mem_featuredUndecayed.2 ⟨ho, hd, hf⟩, (List.length_filter_le _ _).trans hfew⟩

end

/-! ## A deployment -/

/-- A deployment: SATCAT batches, migration 007, and SATCAT batches. -/
structure Deployment (X : Externals) where
  start : Database
  before : List (Call × List ObjectRecord)
  /-- the tables that the migration finds -/
  found : Database
  after : List (Call × List ObjectRecord)
  final : Database
  batches_before : Batches X before start found
  batches_after : Batches X after (addFeaturedObjects found) final

/-- Every seeded object in the catalogue is featured, and in the hot slice as long as there are
slots for all that are featured. -/
structure SeedFeatured (db : Database) : Prop where
  featured : ∀ x ∈ featuredSeed, ∀ row, db.objects.find? x = some row → row.featured = true
  hot : ∀ x ∈ featuredSeed, Undecayed db x → (featuredUndecayed db).length ≤ kGpMaxHotSlots →
    x ∈ Sql.topGpHotTargets kGpMaxHotSlots db

section
variable {X : Externals}

/-- What is featured at the end of a deployment. -/
theorem Deployment.featuredFrom (d : Deployment X) : FeaturedFrom d.found.objects.keys d.final :=
  d.batches_after.preserves (fun _ _ _ _ hrow h => h.upsertedRow hrow)
    (featuredFrom_migration d.found)

/-- Where all flags come from the migration, the seed is featured exactly when each of its stored
objects was there when the migration ran. -/
theorem FeaturedFrom.all_there_iff {there : List Int} {db : Database}
    (h : FeaturedFrom there db) :
    SeedFeatured db ↔ ∀ x ∈ featuredSeed, x ∈ db.objects.keys → x ∈ there := by
  constructor
  · intro hs x hx hmem
    obtain ⟨row, hrow⟩ := Table.exists_find? hmem
    exact ((h.flags x row hrow).1 (hs.featured x hx row hrow)).2
  · intro hthere
    have hfeatured : ∀ x ∈ featuredSeed, ∀ row, db.objects.find? x = some row →
        row.featured = true := by
      intro x hx row hrow
      obtain ⟨hmem, hkey⟩ := Table.find?_eq_some.1 hrow
      exact (h.flags x row hrow).2 ⟨hx, hthere x hx (Table.mem_keys.2 ⟨row, hmem, hkey⟩)⟩
    refine ⟨hfeatured, fun x hx hundecayed hfew => ?_⟩
    obtain ⟨o, ho, rfl, hd⟩ := hundecayed
    exact mem_topGpHotTargets_of_featured ho hd
      (hfeatured _ hx o (Table.find?_eq_some.2 ⟨ho, rfl⟩)) hfew

/-- The seeded objects are featured at the end of a deployment exactly when each of them that a
batch after the migration brings had been there before it. -/
theorem seedFeatured_iff (d : Deployment X) : SeedFeatured d.final ↔
    ∀ b ∈ d.after, ∀ obj ∈ b.2, obj.noradCatId ∈ featuredSeed →
      obj.noradCatId ∈ d.start.objects.keys ∨
        ∃ b' ∈ d.before, ∃ obj' ∈ b'.2, obj'.noradCatId = obj.noradCatId := by
  rw [d.featuredFrom.all_there_iff]
  simp only [d.batches_after.mem_keys, addFeaturedObjects_keys, ← d.batches_before.mem_keys]
  constructor
  · exact fun h b hb obj hobj hseed => h _ hseed (.inr ⟨b, hb, obj, hobj, rfl⟩)
  · intro h x hx hmem
    rcases hmem with hmem | ⟨b, hb, obj, hobj, rfl⟩
    · exact hmem
    · exact h b hb obj hobj hx

end

/-- Every deployment features the seed. -/
def SeedAlwaysFeatured (X : Externals) : Prop := ∀ d : Deployment X, SeedFeatured d.final

namespace FeaturedFixture

/-- No third-party function is called on the texts of these records. -/
def externals : Externals := .ofTables [] [] []

/-- The record of the oldest satellite, which is seeded. -/
def vanguard : ObjectRecord where
  noradCatId := 5
  objectName := "VANGUARD 1"
  objectId := "1958-002B"
  objectType := "PAYLOAD"
  countryCode := "US"
  launchDate := none
  site := "AFETR"
  rcsSize := "SMALL"
  decayDate := none

/-- A fresh deployment: all the migrations, and then the first batch. -/
theorem fresh : ∃ d : Deployment externals, d.start = .empty ∧ d.before = [] ∧
    d.found = .empty ∧ ∃ call, d.after = [(call, [vanguard])] := by
  have hstorable : vanguard.Storable externals := ObjectRecord.storable_iff.2 (by decide +kernel)
  have hbatch : ∃ r, Sql.upsertObjectsFromSatcat externals makeDefaultObjectRuleRegistry
      (calmEnv 0 "" 0) [vanguard] (addFeaturedObjects .empty) = .ok r :=
    upsertObjectsFromSatcat_ok_iff.2 (List.forall_mem_singleton.2 hstorable)
  obtain ⟨⟨events, db⟩, h⟩ := hbatch
  exact ⟨⟨.empty, [], .empty, _, db, .nil, .cons h .nil⟩, rfl, rfl, rfl, _, rfl⟩

end FeaturedFixture

open FeaturedFixture in
/-- After a fresh deployment VANGUARD 1 is in the catalogue and is not featured. -/
theorem not_seedAlwaysFeatured : ¬ SeedAlwaysFeatured externals := by
  intro h
  obtain ⟨d, -, -, hfound, call, hafter⟩ := fresh
  have hmem : (5 : Int) ∈ d.final.objects.keys := by
    rw [d.batches_after.mem_keys, hafter]
    exact .inr ⟨_, .head _, vanguard, .head _, rfl⟩
  have hfive := d.featuredFrom.all_there_iff.1 (h d) 5 (.head _) hmem
  rw [hfound] at hfive
  cases hfive

end VitaleBackend
