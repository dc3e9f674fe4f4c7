import Mathlib.Algebra.Order.ToIntervalMod
import Mathlib.Tactic.Linarith
import Mathlib.Tactic.LinearCombination
import Mathlib.Tactic.Ring

/-!
# Points on a circle

A point on a circle of circumference `p` is named by its distance along it from an origin, which
lies in `[0, p)`. Two points have two arcs between them, `|b - a|` and `p - |b - a|`; `circDist` is
the shorter. The origin is arbitrary: `rotate` moves a point along the circle, and a pair that moves
by one amount keeps its distance (`circDist_rotate`).
-/

namespace Circle

variable {α : Type} [Field α] [LinearOrder α]

/-- The length of the shorter arc between two points. -/
def circDist (p a b : α) : α := min |b - a| (p - |b - a|)

variable [IsStrictOrderedRing α] {p a b a' b' : α}

/-- Two points are less than the circumference apart. -/
theorem abs_sub_lt (ha : a ∈ Set.Ico 0 p) (hb : b ∈ Set.Ico 0 p) : |b - a| < p :=
  abs_lt.2 ⟨by linarith only [ha.2, hb.1], by linarith only [hb.2, ha.1]⟩

/-- The arc that does not pass the origin is the shorter one up to half of the circumference. -/
theorem circDist_eq_abs_iff : circDist p a b = |b - a| ↔ 2 * |b - a| ≤ p := by
  rw [circDist, min_eq_left_iff, two_mul, le_sub_iff_add_le]

/-- Across the origin the way is what the difference leaves of the whole circle. -/
theorem circDist_of_lt (h : p < 2 * |b - a|) : circDist p a b = p - |b - a| :=
  min_eq_right (by linarith only [h])

/-- Differences in `(-p, p)` that are congruent modulo `p` are equal, or they are the two arcs. -/
theorem circDist_congr (ha : a ∈ Set.Ico 0 p) (hb : b ∈ Set.Ico 0 p) (ha' : a' ∈ Set.Ico 0 p)
    (hb' : b' ∈ Set.Ico 0 p) {m : ℤ} (h : b' - a' = b - a + m • p) :
    circDist p a' b' = circDist p a b := by
  obtain ⟨hlo, hhi⟩ := abs_lt.1 (abs_sub_lt ha hb)
  obtain ⟨hlo', hhi'⟩ := abs_lt.1 (abs_sub_lt ha' hb')
  have hp : 0 < p := ha.1.trans_lt ha.2
  rw [zsmul_eq_mul] at h
  have hlt : (m : α) < 2 := lt_of_mul_lt_mul_right (by linarith only [h, hhi', hlo]) hp.le
  have hgt : (-2 : α) < m := lt_of_mul_lt_mul_right (by linarith only [h, hlo', hhi]) hp.le
  have hm : m = -1 ∨ m = 0 ∨ m = 1 := by
    have : m < 2 := by exact_mod_cast hlt
    have : -2 < m := by exact_mod_cast hgt
    omega
  unfold circDist
  rcases hm with rfl | rfl | rfl
  · -- the difference was positive, and the other arc is its complement
    have hneg : b' - a' < 0 := by
      rw [h]
      push_cast
      linarith only [hhi]
    have hpos : 0 < b - a := by
      push_cast at h
      linarith only [h, hlo']
    rw [abs_of_neg hneg, abs_of_pos hpos, h, min_comm]
    push_cast
    ring_nf
  · rw [h, Int.cast_zero, zero_mul, add_zero]
  · have hpos : 0 < b' - a' := by
      rw [h]
      push_cast
      linarith only [hlo]
    have hneg : b - a < 0 := by
      push_cast at h
      linarith only [h, hhi']
    rw [abs_of_pos hpos, abs_of_neg hneg, h, min_comm]
    push_cast
    ring_nf

/-! ## Rotations -/

variable [Archimedean α]

/-- The point an amount further along the circle. -/
noncomputable def rotate (hp : 0 < p) (amount a : α) : α := toIcoMod hp 0 (a + amount)

/-- A rotated point is a point of the circle. -/
theorem rotate_mem (hp : 0 < p) (amount a : α) : rotate hp amount a ∈ Set.Ico 0 p :=
  toIcoMod_mem_Ico' hp _

/-- Where a rotation leads: the point on the circle that differs by whole turns. -/
theorem rotate_eq_iff {hp : 0 < p} {amount : α} :
    rotate hp amount a = b ↔ b ∈ Set.Ico 0 p ∧ ∃ n : ℤ, a + amount = b + n • p := by
  rw [rotate, toIcoMod_eq_iff, zero_add]

/-- Two points that rotate together keep their distance. -/
theorem circDist_rotate (hp : 0 < p) (ha : a ∈ Set.Ico 0 p) (hb : b ∈ Set.Ico 0 p) (amount : α) :
    circDist p (rotate hp amount a) (rotate hp amount b) = circDist p a b := by
  have hturns : ∀ c, ∃ n : ℤ, c + amount = rotate hp amount c + n • p :=
    fun c => (rotate_eq_iff.1 rfl).2
  obtain ⟨m, hm⟩ := hturns a
  obtain ⟨n, hn⟩ := hturns b
  refine circDist_congr ha hb (rotate_mem hp amount a) (rotate_mem hp amount b) (m := m - n) ?_
  rw [zsmul_eq_mul] at hm hn ⊢
  push_cast
  linear_combination hm - hn

end Circle
