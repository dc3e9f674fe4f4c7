import VitaleBackend.Poller.Staleness

/-!
# What a GP request asks for

The hot slice and the rotation of one request, selected from one state of the tables. The rotation
leaves out what the hot slice has, but its second select starts from the bottom of the catalogue and
does not leave out what the first one has taken: in a catalogue that is smaller than the request it
comes round to the same objects again (`requested_distinct_iff`).
-/

namespace VitaleBackend

open Process Relational Sweep

/-- The undecayed objects. -/
def undecayedIds (db : Database) : Finset Int :=
  ((db.objects.rows.filter (·.decayDate.isNone)).map (·.noradCatId)).toFinset

/-- An object is in the set exactly when it is stored and not decayed. -/
theorem mem_undecayedIds {db : Database} {x : Int} : x ∈ undecayedIds db ↔ Undecayed db x := by
  rw [undecayedIds, List.mem_toFinset, List.mem_map]
  constructor
  · rintro ⟨o, ho, rfl⟩
    obtain ⟨hrow, hnone⟩ := List.mem_filter.1 ho
    exact ⟨o, hrow, rfl, Option.isNone_iff_eq_none.1 hnone⟩
  · rintro ⟨o, hrow, rfl, hnone⟩
    exact ⟨o, List.mem_filter.2 ⟨hrow, Option.isNone_iff_eq_none.2 hnone⟩, rfl⟩

namespace Sql

/-! ## The hot slice -/

section
variable {db : Database} {n : Nat}

/-- No hot target comes twice, as the select has one row for each object. -/
theorem topGpHotTargets_nodup : (topGpHotTargets n db).Nodup := by
  rw [topGpHotTargets, firstBy, List.map_take]
  refine List.Nodup.sublist (List.take_sublist _ _) ?_
  refine (List.Perm.nodup_iff ((List.perm_insertionSort hotFirst _).map _)).2 ?_
  exact db.objects.nodup.sublist (List.filter_sublist.map _)

/-- Hot targets are not decayed. -/
theorem mem_topGpHotTargets {x : Int} (h : x ∈ topGpHotTargets n db) : Undecayed db x := by
  rw [topGpHotTargets] at h
  obtain ⟨o, ho, rfl⟩ := List.mem_map.1 h
  obtain ⟨hrow, hwhere⟩ := List.mem_filter.1 (mem_of_mem_firstBy hotFirst ho)
  simp only [decide_eq_true_eq] at hwhere
  exact ⟨o, hrow, rfl, Option.isNone_iff_eq_none.1 hwhere.1⟩

end

/-! ## A select of targets as a set -/

section
variable {db : Database} {bound : Option Int} {excludeIds : List Int} {limit : Nat} {S : Finset Int}

/-- A select takes nothing that it excludes. -/
theorem not_mem_of_mem_selectTargets {y : Int}
    (h : y ∈ selectTargets db.objects bound excludeIds limit) : y ∉ excludeIds := by
  rw [selectTargets_eq] at h
  obtain ⟨o, ho, rfl⟩ := List.mem_map.1 h
  obtain ⟨-, hwhere⟩ := List.mem_filter.1 (mem_of_mem_firstBy byNoradCatId ho)
  simp only [decide_eq_true_eq] at hwhere
  exact hwhere.2.2

/-- No select of the rotation returns an object twice. -/
theorem selectTargets_nodup : (selectTargets db.objects bound excludeIds limit).Nodup :=
  selectTargets_sorted.imp ne_of_lt

/-- What a select may take, as a set. -/
def IsEligible (db : Database) (bound : Option Int) (excludeIds : List Int) (S : Finset Int) :
    Prop :=
  ∀ x, x ∈ S ↔ Undecayed db x ∧ (∀ c ∈ bound, c < x) ∧ x ∉ excludeIds

/-- What it returns is eligible. -/
theorem selectTargets_subset (hS : IsEligible db bound excludeIds S) :
    (selectTargets db.objects bound excludeIds limit).toFinset ⊆ S := by
  intro x hx
  rw [List.mem_toFinset] at hx
  exact (hS x).2 ⟨(mem_selectTargets hx).1, (mem_selectTargets hx).2,
    not_mem_of_mem_selectTargets hx⟩

/-- A select short of its limit took everything. -/
theorem selectTargets_eq_of_short (hS : IsEligible db bound excludeIds S)
    (hshort : (selectTargets db.objects bound excludeIds limit).length < limit) :
    (selectTargets db.objects bound excludeIds limit).toFinset = S := by
  refine (selectTargets_subset hS).antisymm fun x hx => ?_
  obtain ⟨hu, hb, he⟩ := (hS x).1 hx
  exact List.mem_toFinset.2 (mem_selectTargets_of_short hshort hu hb he)

/-- A select takes what there is, up to its limit. -/
theorem selectTargets_length (hS : IsEligible db bound excludeIds S) :
    (selectTargets db.objects bound excludeIds limit).length = min limit S.card := by
  have hcard := List.toFinset_card_of_nodup
    (@selectTargets_nodup db bound excludeIds limit)
  have hsub := Finset.card_le_card (@selectTargets_subset db bound excludeIds limit S hS)
  have hle := @selectTargets_length_le db bound excludeIds limit
  rcases Nat.lt_or_eq_of_le hle with hshort | hfull
  · rw [selectTargets_eq_of_short hS hshort] at hcard
    omega
  · omega

end

end Sql

/-! ## The request -/

namespace GpRun

/-- The run that `main` makes on the tables it finds. -/
def on (s : Session) : GpRun := ⟨s.db, s.db, s⟩

/-- A request of distinct undecayed objects, as many as fit or as there are. -/
structure WellRequested (r : GpRun) : Prop where
  nodup : r.requested.Nodup
  undecayed : ∀ x ∈ r.requested, Undecayed r.atRotation x
  length : r.requested.length = min kGpBatchSize (undecayedIds r.atRotation).card

/-- What is left for the rotation. -/
def rest (r : GpRun) : Finset Int := undecayedIds r.atRotation \ r.hotTargets.toFinset

section
variable {r : GpRun} {x : Int}

/-- What is left for the rotation is undecayed and not in the hot slice. -/
theorem mem_rest : x ∈ r.rest ↔ Undecayed r.atRotation x ∧ x ∉ r.hotTargets := by
  rw [rest, Finset.mem_sdiff, mem_undecayedIds, List.mem_toFinset]

/-- The second select of the rotation chooses from all that is left. -/
theorem rest_eligible : Sql.IsEligible r.atRotation none r.hotTargets r.rest := by
  intro x
  rw [mem_rest]
  exact and_congr_right fun _ => (and_iff_right nofun).symm

/-- The first select of the rotation chooses from what is ahead of the cursor. -/
theorem ahead_eligible : Sql.IsEligible r.atRotation
    (some (r.atRotation.rotationCursor.getD (-1))) r.hotTargets
    (r.rest.filter (r.atRotation.rotationCursor.getD (-1) < ·)) := by
  intro x
  rw [Finset.mem_filter, mem_rest, and_assoc, and_comm (a := x ∉ r.hotTargets)]
  simp

/-- The hot slice and the rest make up the undecayed objects. -/
theorem card_rest (hsame : r.atHot = r.atRotation) :
    r.hotTargets.length + r.rest.card = (undecayedIds r.atRotation).card := by
  have hsub : r.hotTargets.toFinset ⊆ undecayedIds r.atRotation := by
    intro x hx
    rw [List.mem_toFinset, hotTargets, hsame] at hx
    exact mem_undecayedIds.2 (Sql.mem_topGpHotTargets hx)
  have hcard : r.hotTargets.toFinset.card = r.hotTargets.length :=
    List.toFinset_card_of_nodup Sql.topGpHotTargets_nodup
  have hle := Finset.card_le_card hsub
  rw [rest, Finset.card_sdiff_of_subset hsub]
  omega

/-- The hot slice and the room that it leaves make up a request. -/
theorem hotTargets_add_batchSize (r : GpRun) : r.hotTargets.length + r.batchSize =
    kGpBatchSize := by
  have h : r.hotTargets.length ≤ kGpMaxHotSlots := Sql.topGpHotTargets_length _ _
  unfold kGpMaxHotSlots at h
  unfold batchSize kGpBatchSize
  omega

/-- Only undecayed objects are requested. -/
theorem requested_undecayed (hsame : r.atHot = r.atRotation) :
    ∀ x ∈ r.requested, Undecayed r.atRotation x := by
  intro x hx
  rcases List.mem_append.1 hx with hx | hx
  · rw [hotTargets, hsame] at hx
    exact Sql.mem_topGpHotTargets hx
  · exact mem_undecayedIds.1
      (rotationTargets_subset (fun _ => mem_undecayedIds) (List.mem_toFinset.2 hx))

/-- The rotation leaves out the hot slice. -/
theorem not_mem_hotTargets (hx : x ∈ r.rotationTargets) : x ∉ r.hotTargets := by
  by_cases hw : r.Wraps
  · rw [rotationTargets_wrap hw] at hx
    rcases List.mem_append.1 hx with hx | hx
    · exact Sql.not_mem_of_mem_selectTargets hx
    · exact Sql.not_mem_of_mem_selectTargets hx
  · rw [rotationTargets_full hw] at hx
    exact Sql.not_mem_of_mem_selectTargets hx

/-- So a request repeats an object exactly when its rotation does. -/
theorem requested_nodup_iff : r.requested.Nodup ↔ r.rotationTargets.Nodup := by
  rw [requested, List.nodup_append]
  refine ⟨fun h => h.2.1, fun h => ⟨Sql.topGpHotTargets_nodup, h, fun a ha b hb hab => ?_⟩⟩
  rw [hab] at ha
  exact not_mem_hotTargets hb ha

/-- A batch that does not wrap is well requested: it is full. -/
theorem wellRequested_full (hsame : r.atHot = r.atRotation) (hw : ¬ r.Wraps) :
    r.WellRequested ∧ kGpBatchSize ≤ (undecayedIds r.atRotation).card := by
  have hnodup : r.requested.Nodup := by
    rw [requested_nodup_iff, rotationTargets_full hw]
    exact Sql.selectTargets_nodup
  have hlen : r.requested.length = kGpBatchSize := by
    have hle : (Sql.primaryTargets r.batchSize r.hotTargets r.atRotation).length ≤ r.batchSize :=
      Sql.selectTargets_length_le
    have hge : r.batchSize ≤ (Sql.primaryTargets r.batchSize r.hotTargets r.atRotation).length :=
      Nat.not_lt.1 hw
    rw [requested, List.length_append, rotationTargets_full hw, hle.antisymm hge,
      hotTargets_add_batchSize]
  have hmany : kGpBatchSize ≤ (undecayedIds r.atRotation).card := by
    rw [← hlen, ← List.toFinset_card_of_nodup hnodup]
    exact Finset.card_le_card fun x hx =>
      mem_undecayedIds.2 (requested_undecayed hsame x (List.mem_toFinset.1 hx))
  exact ⟨⟨hnodup, requested_undecayed hsame, hlen.trans (Nat.min_eq_left hmany).symm⟩, hmany⟩

/-- What a batch that wraps takes past the cursor. -/
theorem primaryTargets_toFinset (hw : r.Wraps) :
    (Sql.primaryTargets r.batchSize r.hotTargets r.atRotation).toFinset =
      r.rest.filter (r.atRotation.rotationCursor.getD (-1) < ·) :=
  Sql.selectTargets_eq_of_short ahead_eligible hw

/-- A batch that wraps repeats no object exactly when its two selects have none in common. -/
theorem rotationTargets_nodup_iff (hw : r.Wraps) : r.rotationTargets.Nodup ↔
    Disjoint (r.rest.filter (r.atRotation.rotationCursor.getD (-1) < ·))
    r.wrapTargets.toFinset := by
  rw [rotationTargets_wrap hw, List.nodup_append, ← primaryTargets_toFinset hw,
    Finset.disjoint_left]
  constructor
  · rintro ⟨-, -, h⟩ x hx hx'
    exact h x (List.mem_toFinset.1 hx) x (List.mem_toFinset.1 hx') rfl
  · refine fun h => ⟨Sql.selectTargets_nodup, Sql.selectTargets_nodup, ?_⟩
    rintro a ha _ hb rfl
    exact h (List.mem_toFinset.2 ha) (List.mem_toFinset.2 hb)

/-- How much the two selects of a batch that wraps take. -/
theorem primaryTargets_length (hw : r.Wraps) :
    (Sql.primaryTargets r.batchSize r.hotTargets r.atRotation).length =
      (r.rest.filter (r.atRotation.rotationCursor.getD (-1) < ·)).card := by
  rw [← primaryTargets_toFinset hw]
  exact (List.toFinset_card_of_nodup Sql.selectTargets_nodup).symm

/-- A wrapping run fills what its first select left of the batch, as far as there are objects. -/
theorem length_wrapTargets (hw : r.Wraps) : r.wrapTargets.length =
    min (r.batchSize - (r.rest.filter (r.atRotation.rotationCursor.getD (-1) < ·)).card)
      r.rest.card := by
  rw [wrapTargets, Sql.selectTargets_length rest_eligible, primaryTargets_length hw]

/-- A batch that wraps is well requested when there are 500 undecayed objects, or nothing is past
the cursor. -/
theorem wellRequested_wrap (hsame : r.atHot = r.atRotation) (hw : r.Wraps) :
    r.WellRequested ↔ kGpBatchSize ≤ (undecayedIds r.atRotation).card ∨
      ∀ x ∈ r.rest, x ≤ r.atRotation.rotationCursor.getD (-1) := by
  have hsum := card_rest hsame
  have hroom := hotTargets_add_batchSize r
  have hprimary := primaryTargets_length hw
  have hwrap := length_wrapTargets hw
  have hlt : (r.rest.filter (r.atRotation.rotationCursor.getD (-1) < ·)).card < r.batchSize :=
    hprimary ▸ hw
  have hlen : r.requested.length = r.hotTargets.length +
      ((Sql.primaryTargets r.batchSize r.hotTargets r.atRotation).length +
        r.wrapTargets.length) := by
    rw [requested, List.length_append, rotationTargets_wrap hw, List.length_append]
  have hcard : r.wrapTargets.toFinset.card = r.wrapTargets.length :=
    List.toFinset_card_of_nodup Sql.selectTargets_nodup
  have hlower : ∀ a ∈ r.wrapTargets.toFinset, ∀ b ∈ r.rest, b ≤ a → b ∈ r.wrapTargets.toFinset := by
    intro a ha b hb hba
    rw [List.mem_toFinset] at ha ⊢
    obtain ⟨hu, he⟩ := mem_rest.1 hb
    exact Sql.mem_selectTargets_of_le ha hba hu nofun he
  have hsub : r.wrapTargets.toFinset ⊆ r.rest := Sql.selectTargets_subset rest_eligible
  have hdisjoint := disjoint_wrap_iff hsub hlower hlt (hcard.trans hwrap)
  have hsize : r.batchSize ≤ r.rest.card ↔
      kGpBatchSize ≤ (undecayedIds r.atRotation).card := by omega
  rw [← hsize, ← hdisjoint, ← rotationTargets_nodup_iff hw, ← requested_nodup_iff]
  refine ⟨fun h => h.nodup, fun hnodup => ⟨hnodup, requested_undecayed hsame, ?_⟩⟩
  rw [requested_nodup_iff, rotationTargets_nodup_iff hw, hdisjoint] at hnodup
  rcases hnodup with hmany | hnone
  · omega
  · have hempty : r.rest.filter (r.atRotation.rotationCursor.getD (-1) < ·) = ∅ :=
      Finset.filter_eq_empty_iff.2 fun x hx => not_lt.2 (hnone x hx)
    rw [hempty, Finset.card_empty] at hprimary hwrap
    omega

end

end GpRun

/-- A request names distinct undecayed objects and wastes no slot exactly when there are 500 of them
or none outside of the hot slice is past the cursor. -/
theorem requested_distinct_iff (s : Session) : (GpRun.on s).WellRequested ↔
    500 ≤ (undecayedIds s.db).card ∨ ∀ x, Undecayed s.db x →
      x ∉ Sql.topGpHotTargets kGpMaxHotSlots s.db → x ≤ s.db.rotationCursor.getD (-1) := by
  have hrest : (∀ x ∈ (GpRun.on s).rest, x ≤ s.db.rotationCursor.getD (-1)) ↔
      ∀ x, Undecayed s.db x → x ∉ Sql.topGpHotTargets kGpMaxHotSlots s.db →
        x ≤ s.db.rotationCursor.getD (-1) := by
    refine forall_congr' fun x => ?_
    rw [GpRun.mem_rest, and_imp]
    rfl
  rw [← hrest]
  by_cases hw : (GpRun.on s).Wraps
  · exact GpRun.wellRequested_wrap rfl hw
  · obtain ⟨hwell, hmany⟩ := GpRun.wellRequested_full (r := .on s) rfl hw
    exact iff_of_true hwell (.inl hmany)

/-- Every request is of distinct objects and wastes no slot. -/
def RequestsDistinct : Prop := ∀ s, (GpRun.on s).WellRequested

open RotationFixture in
/-- The one object of the catalogue is requested twice. -/
theorem not_requestsDistinct : ¬ RequestsDistinct := by
  intro h
  have hnodup := (h (.start (catalogue 0) (calmEnv 0 "[]"))).nodup
  have htwice : (GpRun.on (.start (catalogue 0) (calmEnv 0 "[]"))).requested = [5, 5] := by
    decide +kernel
  rw [htwice] at hnodup
  exact absurd hnodup (by decide)

end VitaleBackend
