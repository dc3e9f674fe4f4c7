import Mathlib.Data.List.Perm.Basic

/-!
# Steps in another order

A state that takes one step for each element of a list. When steps of independent elements commute,
up to a relation that the steps respect, the list may be permuted: the two runs end in related
states (`Commuting.foldl_perm`).
-/

namespace Reordering

variable {σ β : Type}

/-- Steps that respect a relation, and commute up to it when their elements are independent. -/
structure Commuting (R : σ → σ → Prop) (Independent : β → β → Prop) (step : σ → β → σ) : Prop where
  congr : ∀ {s s'} b, R s s' → R (step s b) (step s' b)
  swap : ∀ s {a b}, Independent a b → R (step (step s a) b) (step (step s b) a)

variable {R : σ → σ → Prop} {Independent : β → β → Prop} {step : σ → β → σ}

/-- A run respects what its steps respect. -/
theorem Commuting.foldl_congr (h : Commuting R Independent step) {s s' : σ} (hs : R s s')
    (l : List β) : R (l.foldl step s) (l.foldl step s') := by
  induction l generalizing s s' with
  | nil => exact hs
  | cons b l ih => exact ih (h.congr b hs)

/-- Runs over pairwise independent elements end alike in every order. -/
theorem Commuting.foldl_perm [Std.Refl R] [IsTrans σ R] [Std.Symm Independent]
    (h : Commuting R Independent step) {l l' : List β} (hperm : l.Perm l')
    (hl : l.Pairwise Independent) (s : σ) : R (l.foldl step s) (l'.foldl step s) := by
  induction hperm generalizing s with
  | nil => exact refl_of R s
  | cons b _ ih => exact ih hl.of_cons (step s b)
  | swap a b l => exact h.foldl_congr (h.swap s (List.rel_of_pairwise_cons hl (.head _))) l
  | trans h₁ _ ih₁ ih₂ =>
    refine trans_of R (ih₁ hl s) (ih₂ ?_ s)
    exact (h₁.pairwise_iff fun hab => symm_of Independent hab).1 hl

end Reordering
