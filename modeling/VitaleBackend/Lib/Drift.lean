import Mathlib.Algebra.Order.Field.Basic
import Mathlib.Tactic.FieldSimp
import Mathlib.Tactic.Linarith
import Mathlib.Tactic.Ring
import VitaleBackend.Lib.Changelog

/-!
# Drift

A quantity that is compared only with what it was last may change by small steps that nobody
notices. Over a list each of whose neighbours are no further apart than a threshold the whole change
is at most that many thresholds (`abs_total_le`), and every such change can be made of steps that
small (`abs_step_le`).
-/

namespace Drift

open Changelog

variable {α K : Type} [Field K] [LinearOrder K] [IsStrictOrderedRing K]

/-- The steps of a list add up. -/
theorem abs_total_le {f : α → K} {t : K} {a b : α} {l : List α}
    (h : ∀ p ∈ neighbours (a :: (l ++ [b])), |f p.2 - f p.1| ≤ t) :
    |f b - f a| ≤ (l.length + 1 : ℕ) * t := by
  induction l generalizing a with
  | nil => simpa using h (a, b) (.head _)
  | cons c l ih =>
    rw [List.cons_append, neighbours_cons_cons, List.forall_mem_cons] at h
    have hrest : |f b - f c| ≤ (l.length + 1 : ℕ) * t := ih h.2
    calc |f b - f a| ≤ |f b - f c| + |f c - f a| := abs_sub_le _ _ _
      _ ≤ (l.length + 1 : ℕ) * t + t := add_le_add hrest h.1
      _ = ((c :: l).length + 1 : ℕ) * t := by
        rw [List.length_cons]
        push_cast
        ring

/-- Neighbours of a list are elements of it. -/
theorem mem_of_mem_neighbours {l : List α} {p : α × α} (h : p ∈ neighbours l) :
    p.1 ∈ l ∧ p.2 ∈ l :=
  ⟨(List.of_mem_zip h).1, List.mem_of_mem_tail (List.of_mem_zip h).2⟩

/-! ## Even steps -/

/-- The point that is reached after `i` of `n` even steps. -/
def along (a b : K) (n i : ℕ) : K := a + (b - a) * (i / n)

omit [LinearOrder K] [IsStrictOrderedRing K] in
/-- Without a step one stays at the start. -/
theorem along_zero (a b : K) (n : ℕ) : along a b n 0 = a := by simp [along]

/-- All steps lead to the end. -/
theorem along_self (a b : K) {n : ℕ} (h : n ≠ 0) : along a b n n = b := by
  have hn : (n : K) ≠ 0 := Nat.cast_ne_zero.2 h
  rw [along, div_self hn]
  ring

/-- Even steps are small enough when the whole change is. -/
theorem abs_step_le {a b t : K} {n : ℕ} (hn : n ≠ 0) (h : |b - a| ≤ n * t) (i : ℕ) :
    |along a b n (i + 1) - along a b n i| ≤ t := by
  have hpos : (0 : K) < n := Nat.cast_pos.2 (Nat.pos_of_ne_zero hn)
  have hstep : along a b n (i + 1) - along a b n i = (b - a) / n := by
    unfold along
    push_cast
    ring
  rw [hstep, abs_div, abs_of_pos hpos, div_le_iff₀ hpos, mul_comm]
  exact h

/-- The neighbours among the first values of a function. -/
theorem mem_neighbours_range {g : ℕ → α} {n : ℕ} {p : α × α}
    (h : p ∈ neighbours ((List.range n).map g)) : ∃ i, i + 1 < n ∧ p = (g i, g (i + 1)) := by
  induction n with
  | zero => cases h
  | succ n ih =>
    rw [List.range_succ, List.map_append, List.map_singleton, neighbours_concat] at h
    rcases List.mem_append.1 h with h | h
    · obtain ⟨i, hi, rfl⟩ := ih h
      exact ⟨i, Nat.lt_succ_of_lt hi, rfl⟩
    · cases n with
      | zero => cases h
      | succ n =>
        rw [List.range_succ, List.map_append, List.map_singleton, List.getLast?_concat] at h
        exact ⟨n, Nat.lt_succ_self _, List.mem_singleton.1 h⟩

/-- The first values of a function, without the first and the last of them. -/
theorem map_range_ends (g : ℕ → α) (n : ℕ) : (List.range (n + 2)).map g =
    g 0 :: ((List.range n).map (fun i => g (i + 1)) ++ [g (n + 1)]) := by
  rw [List.range_succ, List.range_succ_eq_map]
  simp

end Drift
