import Mathlib.Data.Int.Interval
import VitaleBackend.Poller.Rotation

/-!
# How long an object can wait

A successful run takes its batch off the ring, and the hot slice leaves it 300 places or more. So
over a catalogue whose undecayed objects do not change, a run that does not request an object comes
nearer to it by 300 others (`GpRun.advances`), and `⌈N / 300⌉` successful runs request everything
(`bounded_staleness`).
-/

namespace VitaleBackend

open Process Relational Sweep

/-! ## What a select of targets takes -/

/-- Nothing in an increasing list is past its last element. -/
theorem le_of_getLast? {l : List Int} (h : l.Pairwise (· < ·)) {last : Int}
    (hl : l.getLast? = some last) : ∀ y ∈ l, y ≤ last := by
  rcases l.eq_nil_or_concat with rfl | ⟨init, m, rfl⟩
  · exact List.forall_mem_nil _
  · rw [List.concat_eq_append] at h hl ⊢
    rw [List.getLast?_concat] at hl
    cases hl
    refine List.forall_mem_append.2 ⟨fun y hy => ?_, List.forall_mem_singleton.2 (le_refl _)⟩
    exact ((List.pairwise_append.1 h).2.2 y hy last (.head _)).le

namespace Sql

section
variable {db : Database} {bound : Option Int} {excludeIds : List Int} {limit : Nat}

/-- A select takes undecayed objects past its bound. -/
theorem mem_selectTargets {y : Int}
    (h : y ∈ selectTargets db.objects bound excludeIds limit) :
    Undecayed db y ∧ ∀ c ∈ bound, c < y := by
  rw [selectTargets_eq] at h
  obtain ⟨o, ho, rfl⟩ := List.mem_map.1 h
  obtain ⟨hrow, hwhere⟩ := List.mem_filter.1 (mem_of_mem_firstBy byNoradCatId ho)
  simp only [decide_eq_true_eq] at hwhere
  exact ⟨⟨o, hrow, rfl, Option.isNone_iff_eq_none.1 hwhere.1⟩, hwhere.2.1⟩

/-- A select takes every object once, in the order of the numbers. -/
theorem selectTargets_sorted :
    (selectTargets db.objects bound excludeIds limit).Pairwise (· < ·) := by
  have hsorted := List.pairwise_insertionSort byNoradCatId (targetRows db.objects bound excludeIds)
  have hnodup : (((targetRows db.objects bound excludeIds).insertionSort byNoradCatId).map
      (·.noradCatId)).Nodup := by
    refine (List.Perm.nodup_iff ((List.perm_insertionSort byNoradCatId _).map _)).2 ?_
    exact db.objects.nodup.sublist (List.filter_sublist.map _)
  have hle : (((targetRows db.objects bound excludeIds).insertionSort byNoradCatId).map
      (·.noradCatId)).Pairwise (· ≤ ·) := List.pairwise_map.2 hsorted
  rw [selectTargets_eq, firstBy, List.map_take]
  exact ((hle.and hnodup).imp fun h => lt_of_le_of_ne h.1 h.2).sublist (List.take_sublist _ _)

/-- A select fills no more than its limit. -/
theorem selectTargets_length_le :
    (selectTargets db.objects bound excludeIds limit).length ≤ limit := by
  rw [selectTargets_eq, List.length_map, firstBy_length]
  exact Nat.min_le_left _ _

end

end Sql

namespace GpRun

/-! ## What a run takes off the ring -/

/-- The hot slice leaves 300 places. -/
theorem batchSize_ge (r : GpRun) : 300 ≤ r.batchSize := by
  have h : r.hotTargets.length ≤ kGpMaxHotSlots := Sql.topGpHotTargets_length _ _
  rw [kGpMaxHotSlots] at h
  rw [batchSize, kGpBatchSize]
  omega

section
variable {r : GpRun} {U : Finset Int} {x : Int}

/-- A run that does not wrap requests what its first select returned. -/
theorem rotationTargets_full (hw : ¬ r.Wraps) : r.rotationTargets =
    Sql.primaryTargets r.batchSize r.hotTargets r.atRotation := by
  rw [rotationTargets, Sql.nextGpRotationBatch_full hw]

/-- What a batch that wraps takes from the start of the ring. -/
def wrapTargets (r : GpRun) : List Int :=
  Sql.selectTargets r.atRotation.objects none r.hotTargets
    (r.batchSize - (Sql.primaryTargets r.batchSize r.hotTargets r.atRotation).length)

/-- A run that wraps requests what both selects returned. -/
theorem rotationTargets_wrap (hw : r.Wraps) : r.rotationTargets =
    Sql.primaryTargets r.batchSize r.hotTargets r.atRotation ++ r.wrapTargets := by
  rw [rotationTargets, Sql.nextGpRotationBatch_wrap hw]
  rfl

/-- The rotation targets are undecayed. -/
theorem rotationTargets_subset (hU : ∀ y, y ∈ U ↔ Undecayed r.atRotation y) :
    r.rotationTargets.toFinset ⊆ U := by
  intro y hy
  rw [List.mem_toFinset] at hy
  refine (hU y).2 ?_
  by_cases hw : r.Wraps
  · rw [rotationTargets_wrap hw] at hy
    rcases List.mem_append.1 hy with hy | hy
    · exact (Sql.mem_selectTargets hy).1
    · exact (Sql.mem_selectTargets hy).1
  · rw [rotationTargets_full hw] at hy
    exact (Sql.mem_selectTargets hy).1

/-- A batch that does not wrap ends at its last target and passes all of it. -/
theorem advances_full (hU : ∀ y, y ∈ U ↔ Undecayed r.atRotation y) (hw : ¬ r.Wraps)
    {last : Int} (hlast : r.rotationTargets.getLast? = some last) (hx : x ∈ U)
    (hnot : x ∉ r.requested) : (ahead U last x).card + 300 ≤
      (ahead U (r.atRotation.rotationCursor.getD (-1)) x).card := by
  have htargets := rotationTargets_full hw
  have hsorted : r.rotationTargets.Pairwise (· < ·) := htargets ▸ Sql.selectTargets_sorted
  have hbetween : ∀ t ∈ r.rotationTargets.toFinset,
      r.atRotation.rotationCursor.getD (-1) < t ∧ t ≤ last := by
    intro t ht
    rw [List.mem_toFinset] at ht
    refine ⟨?_, le_of_getLast? hsorted hlast t ht⟩
    rw [htargets] at ht
    exact (Sql.mem_selectTargets ht).2 _ rfl
  have hmem : last ∈ r.rotationTargets.toFinset := List.mem_toFinset.2 (List.mem_of_getLast? hlast)
  have hpassed := card_ahead_forward (rotationTargets_subset hU) (hbetween last hmem).1.le
    (fun h => hnot (mem_requested_of_le hw (List.mem_of_getLast? hlast) ((hU x).1 hx) h.1 h.2))
    hbetween
  have hlen : r.batchSize ≤ r.rotationTargets.length := by
    rw [htargets]
    exact Nat.not_lt.1 hw
  rw [List.toFinset_card_of_nodup (hsorted.imp ne_of_lt)] at hpassed
  have hsize := r.batchSize_ge
  omega

/-- The select from the start of the ring is full when it leaves an object out. -/
theorem wrapTargets_length (hw : r.Wraps) (hxu : Undecayed r.atRotation x)
    (hnot : x ∉ r.requested) :
    r.wrapTargets.length =
      r.batchSize - (Sql.primaryTargets r.batchSize r.hotTargets r.atRotation).length := by
  refine Nat.le_antisymm Sql.selectTargets_length_le (Nat.not_lt.1 fun hshort => hnot ?_)
  have hxhot : x ∉ r.hotTargets := fun h => hnot (List.mem_append_left _ h)
  have hx : x ∈ r.wrapTargets := Sql.mem_selectTargets_of_short hshort hxu nofun hxhot
  refine List.mem_append_right _ ?_
  rw [rotationTargets_wrap hw]
  exact List.mem_append_right _ hx

/-- The targets of a batch that wraps are past the cursor or not past the last of them. -/
theorem rotationTargets_around (hw : r.Wraps) {last : Int}
    (hlast : r.wrapTargets.getLast? = some last) :
    ∀ t ∈ r.rotationTargets, r.atRotation.rotationCursor.getD (-1) < t ∨ t ≤ last := by
  intro t ht
  rw [rotationTargets_wrap hw] at ht
  exact (List.mem_append.1 ht).imp (fun ht => (Sql.mem_selectTargets ht).2 _ rfl)
    (le_of_getLast? Sql.selectTargets_sorted hlast t)

/-- Such a batch has no object twice when it ends before the cursor. -/
theorem rotationTargets_nodup (hw : r.Wraps) {last : Int}
    (hlast : r.wrapTargets.getLast? = some last)
    (hle : last ≤ r.atRotation.rotationCursor.getD (-1)) : r.rotationTargets.Nodup := by
  rw [rotationTargets_wrap hw, List.nodup_append]
  refine ⟨Sql.selectTargets_sorted.imp ne_of_lt, Sql.selectTargets_sorted.imp ne_of_lt,
    fun a ha b hb hab => ?_⟩
  have hlow : r.atRotation.rotationCursor.getD (-1) < a := (Sql.mem_selectTargets ha).2 _ rfl
  have hhigh := le_of_getLast? Sql.selectTargets_sorted hlast b hb
  omega

/-- A batch that wraps and does not have `x` passes the end of the ring and its start up to its last
target, which is short of `x`. -/
theorem advances_wrap (hU : ∀ y, y ∈ U ↔ Undecayed r.atRotation y) (hw : r.Wraps) (hx : x ∈ U)
    (hnot : x ∉ r.requested) : ∃ last, r.rotationTargets.getLast? = some last ∧
      (ahead U last x).card + 300 ≤
        (ahead U (r.atRotation.rotationCursor.getD (-1)) x).card := by
  have hxu := (hU x).1 hx
  have hxp : x ≤ r.atRotation.rotationCursor.getD (-1) :=
    not_lt.1 fun hlt => hnot (mem_requested_of_wraps hw hxu hlt)
  obtain ⟨last, hlast, hlt⟩ : ∃ last, r.rotationTargets.getLast? = some last ∧ last < x := by
    by_contra hno
    simp only [not_exists, not_and, not_lt] at hno
    exact hnot (mem_requested_of_wraps_le hw hxu hno)
  refine ⟨last, hlast, ?_⟩
  have hshort : (Sql.primaryTargets r.batchSize r.hotTargets r.atRotation).length < r.batchSize :=
    hw
  have hfull := wrapTargets_length hw hxu hnot
  have hend : r.wrapTargets.getLast? = some last := by
    rw [rotationTargets_wrap hw, List.getLast?_append] at hlast
    cases hl : r.wrapTargets.getLast? with
    | none =>
      rw [List.getLast?_eq_none_iff.1 hl, List.length_nil] at hfull
      omega
    | some m =>
      rw [hl] at hlast
      exact hlast
  have hpassed := card_ahead_wrap (rotationTargets_subset hU) hxp hlt fun t ht =>
    rotationTargets_around hw hend t (List.mem_toFinset.1 ht)
  rw [List.toFinset_card_of_nodup (rotationTargets_nodup hw hend (hlt.le.trans hxp)),
    rotationTargets_wrap hw, List.length_append, hfull] at hpassed
  have hsize := r.batchSize_ge
  omega

end

/-- A successful run comes 300 objects nearer to every object that it does not request. -/
theorem advances {X : Externals} {r : GpRun} {U : Finset Int}
    (hc : r.atRotation.rotationCursor = r.start.db.rotationCursor)
    (hU : ∀ y, y ∈ U ↔ Undecayed r.atRotation y) (hs : r.Succeeds X) :
    (r.visit X).Advances U 300 := by
  intro x hx hnot
  have hnr : x ∉ r.requested := fun h => hnot ⟨hs, h⟩
  have hcur : (r.finish X).db.rotationCursor =
      cursorAfter r.start.db.rotationCursor r.rotationTargets := by
    rcases r.finish_cursor X with ⟨-, hcur⟩ | ⟨hn, -⟩
    · exact hcur
    · exact absurd hs hn
  obtain ⟨last, hlast, hcard⟩ : ∃ last, r.rotationTargets.getLast? = some last ∧
      (ahead U last x).card + 300 ≤
        (ahead U (r.atRotation.rotationCursor.getD (-1)) x).card := by
    by_cases hw : r.Wraps
    · exact advances_wrap hU hw hx hnr
    · obtain ⟨last, hlast⟩ := exists_getLast hw
      exact ⟨last, hlast, advances_full hU hw hlast hx hnr⟩
  show (ahead U ((r.finish X).db.rotationCursor.getD (-1)) x).card + 300 ≤
    (ahead U (r.start.db.rotationCursor.getD (-1)) x).card
  rw [hcur, cursorAfter, hlast, Option.some_or, Option.getD_some, ← hc]
  exact hcard

end GpRun

/-! ## Sequences of runs -/

section
variable {X : Externals}

/-- Every run of a sequence selects and starts at one cursor. -/
theorem GpRuns.selects {rs : List GpRun} {cursor : Option Int} (h : GpRuns X cursor rs) :
    ∀ r ∈ rs, r.atRotation.rotationCursor = r.start.db.rotationCursor := by
  induction rs generalizing cursor with
  | nil => exact List.forall_mem_nil _
  | cons r rs ih => exact List.forall_mem_cons.2 ⟨h.1.trans h.2.1.symm, ih h.2.2⟩

/-- Over a catalogue whose undecayed objects stay the same, among any runs of which `⌈N / 300⌉`
succeed some successful one requests each of the `N` objects. -/
theorem bounded_staleness {cursor : Option Int} {rs : List GpRun} (h : GpRuns X cursor rs)
    {U : Finset Int} (hU : ∀ r ∈ rs, ∀ y, y ∈ U ↔ Undecayed r.atRotation y)
    (hcount : (U.card + 299) / 300 ≤ rs.countP (GpRun.succeeds X)) :
    ∀ x ∈ U, ∃ r ∈ rs, r.Succeeds X ∧ x ∈ r.requested := by
  intro x hx
  have hselects := h.selects
  refine requested_in_time (n := 300) h.chained
    (fun r hr (hs : r.succeeds X = true) => ?_) (fun r hr hs => ?_) (by omega) hx
  · exact GpRun.advances (hselects r hr) (hU r hr) (GpRun.succeeds_iff.1 hs)
  · -- a run that fails leaves the cursor
    show (r.finish X).db.rotationCursor.getD (-1) = r.start.db.rotationCursor.getD (-1)
    rcases r.finish_cursor X with ⟨hok, -⟩ | ⟨-, hcur⟩
    · rw [GpRun.succeeds_iff.2 hok] at hs
      cases hs
    · rw [hcur]

end

open RotationFixture in
/-- Object 550 is requested by one of the two runs: 600 objects need two of them. -/
theorem bounded_staleness_one : ∃ r ∈ [first, second],
    r.Succeeds externals ∧ 550 ∈ r.requested := by
  have hruns : GpRuns externals crowd.rotationCursor [first, second] := GpRuns.prefix runs
  have hmem : [first, second] ⊆ [first, second, third] := by simp
  refine bounded_staleness hruns (U := Finset.Icc 1 600) (fun r hr y => ?_) ?_ 550 (by simp)
  · rw [Finset.mem_Icc]
    exact (undecayed r (hmem hr) y).symm
  · rw [List.countP_eq_length.2 fun r hr => succeed r (hmem hr)]
    simp

end VitaleBackend
