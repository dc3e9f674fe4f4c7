import Mathlib.Data.Finset.Card

/-!
# Cyclic sweeps over a changing set

A sweep visits the elements of a linear order again and again. Each visit starts behind a position,
requests some elements and leaves a position; a visit that reaches the end of the order wraps and
goes on from its start. The set to be swept may change between any two visits. What one visit owes
is `Visit.Sound`; what a whole sweep then owes is `covered_between_wraps`: an element that is there
all the time is requested at some visit from one wrap to the next, both included. More generally it
is requested whenever the sweep passes it (`requested_of_passes`).

Over a set that does not change, progress is counted: `ahead` is the part of the ring that a sweep
still has to pass to get to an element, and a visit that takes `n` elements off it for every element
that it does not request gets to all of them in time (`requested_in_time`).
-/

namespace Sweep

variable {α : Type}

/-- One visit of a sweep. -/
structure Visit (α : Type) where
  /-- the position the visit starts behind -/
  before : α
  /-- the position it leaves -/
  after : α
  /-- the elements there at that time -/
  eligible : Set α
  requested : Set α
  wraps : Prop

/-- Each visit starts where the one before it ended. -/
def Chained (p : α) : List (Visit α) → Prop
  | [] => True
  | v :: vs => v.before = p ∧ Chained v.after vs

variable [LinearOrder α]

/-- What one visit owes: ahead of its start it requests everything up to its end, and everything
when it wraps; a visit that wraps also requests everything from the bottom up to its end. -/
structure Visit.Sound (v : Visit α) : Prop where
  ahead : ∀ x ∈ v.eligible, v.before < x → x ≤ v.after ∨ v.wraps → x ∈ v.requested
  behind : v.wraps → ∀ x ∈ v.eligible, x ≤ v.after → x ∈ v.requested

/-- An element ahead of the position is requested no later than at the next wrap. -/
theorem requested_of_ahead {x p : α} {vs : List (Visit α)} (hc : Chained p vs)
    (hs : ∀ v ∈ vs, v.Sound) (hx : ∀ v ∈ vs, x ∈ v.eligible) (hw : ∃ v ∈ vs, v.wraps)
    (hpx : p < x) : ∃ v ∈ vs, x ∈ v.requested := by
  induction vs generalizing p with
  | nil =>
    obtain ⟨v, hv, -⟩ := hw
    cases hv
  | cons v vs ih =>
    have hsv := hs v (.head _)
    have hxv := hx v (.head _)
    rw [← hc.1] at hpx
    by_cases hvw : v.wraps
    · exact ⟨v, .head _, hsv.ahead x hxv hpx (.inr hvw)⟩
    rcases le_or_gt x v.after with hle | hlt
    · exact ⟨v, .head _, hsv.ahead x hxv hpx (.inl hle)⟩
    -- the visit stopped short of `x`, so the rest of the sweep has it ahead
    have hw' : ∃ w ∈ vs, w.wraps := by
      obtain ⟨w, hw, hww⟩ := hw
      rcases List.mem_cons.1 hw with rfl | hw
      · exact absurd hww hvw
      · exact ⟨w, hw, hww⟩
    obtain ⟨w, hw, hwr⟩ := ih hc.2 (fun w hw => hs w (.tail _ hw)) (fun w hw => hx w (.tail _ hw))
      hw' hlt
    exact ⟨w, .tail _ hw, hwr⟩

/-- From a wrap to a later wrap, an element that is there all the time is requested. -/
theorem covered_between_wraps {v : Visit α} {vs : List (Visit α)} {x : α}
    (hc : Chained v.after vs) (hs : ∀ w ∈ v :: vs, w.Sound) (hx : ∀ w ∈ v :: vs, x ∈ w.eligible)
    (hv : v.wraps) (hw : ∃ w ∈ vs, w.wraps) : ∃ w ∈ v :: vs, x ∈ w.requested := by
  rcases le_or_gt x v.after with hle | hlt
  · exact ⟨v, .head _, (hs v (.head _)).behind hv x (hx v (.head _)) hle⟩
  · obtain ⟨w, hw, hwr⟩ := requested_of_ahead hc (fun w hw => hs w (.tail _ hw))
      (fun w hw => hx w (.tail _ hw)) hw hlt
    exact ⟨w, .tail _ hw, hwr⟩

/-! ## What a sweep passes -/

/-- The position after some visits. -/
def position (p : α) : List (Visit α) → α
  | [] => p
  | v :: vs => position v.after vs

/-- A sweep from `p` to `q` that wraps some times passes `x`: on the first lap what lies past `p`,
and on the last one what does not lie past `q`. -/
def Passes (p q : α) (wraps : Nat) (x : α) : Prop :=
  ∃ lap ≤ wraps, (lap = 0 → p < x) ∧ (lap = wraps → x ≤ q)

/-- Whatever a sweep passes it requests, when it is there all the time. -/
theorem requested_of_passes {ι : Type} {visit : ι → Visit α} {wraps : ι → Bool} {x p : α}
    {is : List ι} (hc : Chained p (is.map visit)) (hs : ∀ i ∈ is, (visit i).Sound)
    (hx : ∀ i ∈ is, x ∈ (visit i).eligible) (hw : ∀ i ∈ is, wraps i = true ↔ (visit i).wraps)
    (hpass : Passes p (position p (is.map visit)) (is.countP wraps) x) :
    ∃ i ∈ is, x ∈ (visit i).requested := by
  obtain ⟨lap, hlap, hfirst, hlast⟩ := hpass
  induction is generalizing p lap with
  | nil =>
    obtain rfl : lap = 0 := Nat.le_zero.1 hlap
    exact absurd (hlast rfl) (not_le.2 (hfirst rfl))
  | cons i is ih =>
    rw [List.forall_mem_cons] at hs hx hw
    rw [List.map_cons, position] at hlast
    obtain ⟨rfl, hrest⟩ := hc
    have hlater : ∀ lap' ≤ is.countP wraps, (lap' = 0 → (visit i).after < x) →
        (lap' = is.countP wraps → x ≤ position (visit i).after (is.map visit)) →
        ∃ j ∈ i :: is, x ∈ (visit j).requested := by
      intro lap' hlap' hfirst' hlast'
      obtain ⟨j, hj, hjr⟩ := ih hrest hs.2 hx.2 hw.2 lap' hlap' hfirst' hlast'
      exact ⟨j, .tail _ hj, hjr⟩
    rw [List.countP_cons] at hlap hlast
    by_cases hwi : (visit i).wraps
    · rw [if_pos (hw.1.2 hwi)] at hlap hlast
      cases lap with
      | zero => exact ⟨i, .head _, hs.1.ahead x hx.1 (hfirst rfl) (.inr hwi)⟩
      | succ lap =>
        rcases le_or_gt x (visit i).after with hle | hlt
        · exact ⟨i, .head _, hs.1.behind hwi x hx.1 hle⟩
        · exact hlater lap (Nat.le_of_succ_le_succ hlap) (fun _ => hlt) fun h => hlast (by rw [h])
    · rw [if_neg fun h => hwi (hw.1.1 h)] at hlap hlast
      rcases Nat.eq_zero_or_pos lap with rfl | hpos
      · rcases le_or_gt x (visit i).after with hle | hlt
        · exact ⟨i, .head _, hs.1.ahead x hx.1 (hfirst rfl) (.inl hle)⟩
        · exact hlater 0 hlap (fun _ => hlt) hlast
      · exact hlater lap hlap (fun h => absurd h hpos.ne') hlast

/-! ## A batch of two selects -/

section
variable {R W : Finset α} {p : α} {n : Nat}

/-- A batch takes everything past `p`, and fills itself up from the bottom of the set. It has
nothing twice exactly when the set is not smaller than the batch, or has nothing past `p`. -/
theorem disjoint_wrap_iff (hsub : W ⊆ R) (hlower : ∀ a ∈ W, ∀ b ∈ R, b ≤ a → b ∈ W)
    (hshort : (R.filter (p < ·)).card < n)
    (hcard : W.card = min (n - (R.filter (p < ·)).card) R.card) :
    Disjoint (R.filter (p < ·)) W ↔ n ≤ R.card ∨ ∀ x ∈ R, x ≤ p := by
  have hsplit : (R.filter (p < ·)).card + (R.filter (¬ p < ·)).card = R.card :=
    Finset.card_filter_add_card_filter_not (p < ·)
  constructor
  · intro hdisj
    have hbelow : W ⊆ R.filter (¬ p < ·) := fun x hx =>
      Finset.mem_filter.2 ⟨hsub hx, fun hlt =>
        Finset.disjoint_left.1 hdisj (Finset.mem_filter.2 ⟨hsub hx, hlt⟩) hx⟩
    have hle := Finset.card_le_card hbelow
    refine or_iff_not_imp_left.2 fun hn x hx => not_lt.1 fun hlt => ?_
    have hpos : 0 < (R.filter (p < ·)).card :=
      Finset.card_pos.2 ⟨x, Finset.mem_filter.2 ⟨hx, hlt⟩⟩
    omega
  · rintro (hn | hnone)
    · rw [Finset.disjoint_left]
      intro x hx hxW
      obtain ⟨hxR, hlt⟩ := Finset.mem_filter.1 hx
      -- with `x` the batch has everything up to `p` as well, which is more than there is room for
      have hbelow : insert x (R.filter (¬ p < ·)) ⊆ W := by
        intro y hy
        rcases Finset.mem_insert.1 hy with rfl | hy
        · exact hxW
        · obtain ⟨hyR, hle⟩ := Finset.mem_filter.1 hy
          exact hlower x hxW y hyR ((not_lt.1 hle).trans hlt.le)
      have hnot : x ∉ R.filter (¬ p < ·) := fun h => (Finset.mem_filter.1 h).2 hlt
      have hle := Finset.card_le_card hbelow
      rw [Finset.card_insert_of_notMem hnot] at hle
      omega
    · have hempty : R.filter (p < ·) = ∅ :=
        Finset.filter_eq_empty_iff.2 fun x hx => not_lt.2 (hnone x hx)
      rw [hempty]
      exact Finset.disjoint_empty_left W

end

/-! ## Progress around the ring -/

/-- The elements from behind a position, around the ring, up to `x`. -/
def ahead (U : Finset α) (p x : α) : Finset α :=
  if p < x then U.filter fun u => p < u ∧ u ≤ x else U.filter fun u => p < u ∨ u ≤ x

section
variable {U T : Finset α} {p q x : α} {n : Nat}

/-- The way to an element ends with it, wherever it begins. -/
theorem mem_ahead_self (hx : x ∈ U) (p : α) : x ∈ ahead U p x := by
  rw [ahead]
  split
  · next h => exact Finset.mem_filter.2 ⟨hx, h, le_refl x⟩
  · exact Finset.mem_filter.2 ⟨hx, .inr (le_refl x)⟩

/-- What is ahead is on the ring. -/
theorem ahead_subset (U : Finset α) (p x : α) : ahead U p x ⊆ U := by
  rw [ahead]
  split <;> exact Finset.filter_subset _ _

/-- What was passed is no longer ahead. -/
theorem card_ahead_of_passed (hT : T ⊆ ahead U p x) (hq : ahead U q x ⊆ ahead U p x)
    (hpassed : ∀ t ∈ T, t ∉ ahead U q x) : (ahead U q x).card + T.card ≤ (ahead U p x).card := by
  rw [← Finset.card_union_of_disjoint (Finset.disjoint_right.2 hpassed)]
  exact Finset.card_le_card (Finset.union_subset hq hT)

/-- A visit that ends in front of where it started passes what lies between, unless it passes
`x`. -/
theorem card_ahead_forward (hT : T ⊆ U) (hpq : p ≤ q) (hx : ¬ (p < x ∧ x ≤ q))
    (hbetween : ∀ t ∈ T, p < t ∧ t ≤ q) :
    (ahead U q x).card + T.card ≤ (ahead U p x).card := by
  by_cases hpx : p < x
  · have hqx : q < x := not_le.1 fun hle => hx ⟨hpx, hle⟩
    refine card_ahead_of_passed (fun t ht => ?_) (fun u hu => ?_) fun t ht hmem => ?_
    · rw [ahead, if_pos hpx]
      exact Finset.mem_filter.2 ⟨hT ht, (hbetween t ht).1, (hbetween t ht).2.trans hqx.le⟩
    · rw [ahead, if_pos hqx, Finset.mem_filter] at hu
      rw [ahead, if_pos hpx]
      exact Finset.mem_filter.2 ⟨hu.1, hpq.trans_lt hu.2.1, hu.2.2⟩
    · rw [ahead, if_pos hqx, Finset.mem_filter] at hmem
      exact absurd (hbetween t ht).2 (not_le.2 hmem.2.1)
  · have hqx : ¬ q < x := fun h => hpx (hpq.trans_lt h)
    refine card_ahead_of_passed (fun t ht => ?_) (fun u hu => ?_) fun t ht hmem => ?_
    · rw [ahead, if_neg hpx]
      exact Finset.mem_filter.2 ⟨hT ht, .inl (hbetween t ht).1⟩
    · rw [ahead, if_neg hqx, Finset.mem_filter] at hu
      rw [ahead, if_neg hpx]
      exact Finset.mem_filter.2 ⟨hu.1, hu.2.imp_left hpq.trans_lt⟩
    · rw [ahead, if_neg hqx, Finset.mem_filter] at hmem
      rcases hmem.2 with hlt | hle
      · exact absurd (hbetween t ht).2 (not_le.2 hlt)
      · exact hpx ((hbetween t ht).1.trans_le hle)

/-- A visit that wraps and ends short of `x` passes the end of the ring and its start. -/
theorem card_ahead_wrap (hT : T ⊆ U) (hxp : x ≤ p) (hqx : q < x)
    (hends : ∀ t ∈ T, p < t ∨ t ≤ q) : (ahead U q x).card + T.card ≤ (ahead U p x).card := by
  have hpx : ¬ p < x := not_lt.2 hxp
  refine card_ahead_of_passed (fun t ht => ?_) (fun u hu => ?_) fun t ht hmem => ?_
  · rw [ahead, if_neg hpx]
    exact Finset.mem_filter.2 ⟨hT ht, (hends t ht).imp_right fun hle => hle.trans hqx.le⟩
  · rw [ahead, if_pos hqx, Finset.mem_filter] at hu
    rw [ahead, if_neg hpx]
    exact Finset.mem_filter.2 ⟨hu.1, .inr hu.2.2⟩
  · rw [ahead, if_pos hqx, Finset.mem_filter] at hmem
    rcases hends t ht with hlt | hle
    · exact absurd hmem.2.2 (not_le.2 (hxp.trans_lt hlt))
    · exact absurd hle (not_le.2 hmem.2.1)

/-- What is ahead in a set, in two parts. -/
theorem card_ahead_sdiff (hT : T ⊆ U) (p x : α) :
    (ahead T p x).card + (ahead (U \ T) p x).card = (ahead U p x).card := by
  have hsplit : ∀ P : α → Prop, [DecidablePred P] →
      (T.filter P).card + ((U \ T).filter P).card = (U.filter P).card := by
    intro P _
    rw [← Finset.card_union_of_disjoint (Finset.disjoint_filter_filter Finset.disjoint_sdiff),
      ← Finset.filter_union, Finset.union_sdiff_of_subset hT]
  unfold ahead
  split <;> exact hsplit _

/-- For every element that it does not request a visit takes `n` elements off what is ahead. -/
def Visit.Advances (v : Visit α) (U : Finset α) (n : Nat) : Prop :=
  ∀ x ∈ U, x ∉ v.requested → (ahead U v.after x).card + n ≤ (ahead U v.before x).card

variable {ι : Type} {visit : ι → Visit α} {works : ι → Bool} {is : List ι}

/-- As long as an element is not requested, every visit that works brings the sweep nearer to it. -/
theorem card_ahead_of_not_requested (hc : Chained p (is.map visit))
    (hworks : ∀ i ∈ is, works i = true → (visit i).Advances U n)
    (hidle : ∀ i ∈ is, works i = false → (visit i).after = (visit i).before) (hx : x ∈ U)
    (hnot : ∀ i ∈ is, x ∉ (visit i).requested) :
    n * is.countP works < (ahead U p x).card := by
  induction is generalizing p with
  | nil =>
    rw [List.countP_nil, Nat.mul_zero]
    exact Finset.card_pos.2 ⟨x, mem_ahead_self hx p⟩
  | cons i is ih =>
    obtain ⟨hbefore, hrest⟩ := hc
    rw [List.forall_mem_cons] at hworks hidle hnot
    have hlater := ih hrest hworks.2 hidle.2 hnot.2
    rw [List.countP_cons, ← hbefore]
    cases hi : works i with
    | true =>
      have hadvance := hworks.1 hi x hx hnot.1
      rw [if_pos rfl, Nat.mul_add, Nat.mul_one]
      omega
    | false =>
      rw [hidle.1 hi] at hlater
      simpa using hlater

/-- Every element is requested in time: when the visits that work could take off the whole set. -/
theorem requested_in_time (hc : Chained p (is.map visit))
    (hworks : ∀ i ∈ is, works i = true → (visit i).Advances U n)
    (hidle : ∀ i ∈ is, works i = false → (visit i).after = (visit i).before)
    (henough : U.card ≤ n * is.countP works) (hx : x ∈ U) :
    ∃ i ∈ is, x ∈ (visit i).requested := by
  by_contra hno
  simp only [not_exists, not_and] at hno
  have hahead := card_ahead_of_not_requested hc hworks hidle hx hno
  have hall := Finset.card_le_card (ahead_subset U p x)
  omega

end

end Sweep
