import Mathlib.Data.List.DropRight
import VitaleBackend.Lib.LongestPrefix

/-!
# Splitting and stripping

The pieces of a list between separators (`mem_splitOn_iff`), and a list without the elements of one
kind at its two ends (`strip_eq_iff`).
-/

namespace Splitting

variable {α : Type} {s t : List α}

section
variable [DecidableEq α] {a : α}

/-- A list without the separator, between two separators or at an end. -/
def IsPiece (a : α) (s t : List α) : Prop :=
  a ∉ t ∧ ∃ pre post, s = pre ++ (t ++ post) ∧ (pre = [] ∨ ∃ u, pre = u ++ [a]) ∧
    (post = [] ∨ ∃ v, post = a :: v)

omit [DecidableEq α] in
/-- What stands before a separator does not matter to what stands after it. -/
theorem IsPiece.append_cons (h : IsPiece a s t) (u : List α) : IsPiece a (u ++ a :: s) t := by
  obtain ⟨ht, pre, post, rfl, hpre, hpost⟩ := h
  refine ⟨ht, u ++ a :: pre, post, by simp, .inr ?_, hpost⟩
  rcases hpre with rfl | ⟨v, rfl⟩
  · exact ⟨u, rfl⟩
  · exact ⟨u ++ a :: v, by simp⟩

/-- What `splitOn` returns are pieces: by induction on the separators, the first of which ends the
first piece. -/
theorem isPiece_of_mem_splitOn {s : List α} (h : t ∈ s.splitOn a) : IsPiece a s t := by
  by_cases ha : a ∈ s
  · -- the first separator ends the first piece
    obtain ⟨u, v, hs, hu⟩ := List.eq_append_cons_of_mem ha
    rw [hs, List.splitOn_append_cons_self_of_not_mem hu] at h
    rw [hs]
    rcases List.mem_cons.1 h with rfl | h
    · exact ⟨hu, [], a :: v, rfl, .inl rfl, .inr ⟨v, rfl⟩⟩
    · exact (isPiece_of_mem_splitOn h).append_cons u
  · rw [List.splitOn_eq_singleton ha, List.mem_singleton] at h
    subst h
    exact ⟨ha, [], [], by simp, .inl rfl, .inl rfl⟩
termination_by s.length
decreasing_by
  rw [hs, List.length_append, List.length_cons]
  omega

/-- The pieces of a list are what splitting it gives. -/
theorem mem_splitOn_iff : t ∈ s.splitOn a ↔ IsPiece a s t := by
  constructor
  · exact isPiece_of_mem_splitOn
  · rintro ⟨ht, pre, post, rfl, hpre, hpost⟩
    have hafter : t ∈ (t ++ post).splitOn a := by
      rcases hpost with rfl | ⟨v, rfl⟩
      · rw [List.append_nil, List.splitOn_eq_singleton ht]
        exact .head _
      · rw [List.splitOn_append_cons_self_of_not_mem ht]
        exact .head _
    rcases hpre with rfl | ⟨u, rfl⟩
    · exact hafter
    · rw [List.append_assoc, List.singleton_append, List.splitOn_append_cons_self]
      exact List.mem_append_right _ hafter

/-- A list of texts is split by splitting each. -/
theorem any_splitOn_intercalate (p : List α → Bool) (l : List α) (ls : List (List α)) :
    (([a].intercalate (l :: ls)).splitOn a).any p = (l :: ls).any fun l => (l.splitOn a).any p := by
  induction ls generalizing l with
  | nil => simp
  | cons l' ls ih =>
    rw [List.intercalate_cons_cons, List.append_assoc, List.singleton_append,
      List.splitOn_append_cons_self, List.any_append, ih, List.any_cons]
    rfl

/-- A piece has no more of an element than the whole. -/
theorem count_le_of_mem_splitOn (b : α) (h : t ∈ s.splitOn a) : t.count b ≤ s.count b := by
  obtain ⟨-, pre, post, rfl, -⟩ := mem_splitOn_iff.1 h
  rw [List.count_append, List.count_append]
  omega

end

/-! ## Stripping -/

section
variable {p : α → Bool}

/-- A list without what has a property at its two ends. -/
def strip (p : α → Bool) (s : List α) : List α := (s.dropWhile p).rdropWhile p

/-- A list that neither begins nor ends with the property, and what has it around the list. -/
def IsStripped (p : α → Bool) (s t : List α) : Prop :=
  ∃ before after, s = before ++ (t ++ after) ∧ (∀ b ∈ before, p b = true) ∧
    (∀ b ∈ after, p b = true) ∧ (∀ b ∈ t.head?, p b = false) ∧ ∀ b ∈ t.getLast?, p b = false

/-- What is left between the ends is the only such list, when it is not empty. -/
theorem strip_eq_of_isStripped (hne : t ≠ []) (h : IsStripped p s t) : strip p s = t := by
  obtain ⟨before, after, rfl, hbefore, hafter, hhead, hlast⟩ := h
  have hdrop : (before ++ (t ++ after)).dropWhile p = t ++ after := by
    refine LongestPrefix.dropWhile_append_of_head hbefore fun b hb => ?_
    rw [List.head?_append_of_ne_nil _ hne] at hb
    exact hhead b hb
  have hrdrop : (t ++ after).reverse.dropWhile p = t.reverse := by
    rw [List.reverse_append]
    refine LongestPrefix.dropWhile_append_of_head (fun b hb => hafter b (List.mem_reverse.1 hb)) ?_
    rwa [List.head?_reverse]
  rw [strip, hdrop, List.rdropWhile, hrdrop, List.reverse_reverse]

/-- What `strip` leaves is such a list. -/
theorem isStripped_strip (p : α → Bool) (s : List α) : IsStripped p s (strip p s) := by
  refine ⟨s.takeWhile p, (s.dropWhile p).rtakeWhile p, ?_, fun b hb => List.mem_takeWhile_imp hb,
    fun b hb => List.mem_rtakeWhile_imp hb, fun b hb => ?_, fun b hb => ?_⟩
  · rw [strip, List.rdropWhile_append_rtakeWhile, List.takeWhile_append_dropWhile]
  · obtain ⟨rest, hrest⟩ := List.rdropWhile_prefix p (s.dropWhile p)
    refine LongestPrefix.head?_dropWhile p s b ?_
    rw [← hrest]
    exact List.mem_head?_append_of_mem_head? hb
  · rw [strip, List.rdropWhile, List.getLast?_reverse] at hb
    exact LongestPrefix.head?_dropWhile p _ b hb

/-- So `strip` leaves exactly the list between the ends. -/
theorem strip_eq_iff (hne : t ≠ []) : strip p s = t ↔ IsStripped p s t := by
  constructor
  · rintro rfl
    exact isStripped_strip p s
  · exact strip_eq_of_isStripped hne

end

end Splitting
