import Mathlib.Data.List.TakeWhile

/-!
# Longest prefixes of a bounded length

A scanner with a field width takes the longest prefix of its input with a property and at most
`width` elements. `LongestPrefix` says which prefix that is, and `longestPrefix_iff` that
`takeWhile` on the first `width` elements finds it.
-/

variable {α : Type} {p : α → Bool} {width : Nat} {s t u rest : List α}

/-- The longest prefix `u` of `s` with the property and at most `width` elements, and what is
left. -/
structure LongestPrefix (p : α → Bool) (width : Nat) (s u rest : List α) : Prop where
  split : s = u ++ rest
  forall_mem : ∀ a ∈ u, p a = true
  length_le : u.length ≤ width
  maximal : u.length = width ∨ ∀ a ∈ rest.head?, p a = false

namespace LongestPrefix

/-- Elements with a property end where the property does. -/
theorem takeWhile_append_of_head (hs : ∀ a ∈ s, p a = true) (ht : ∀ a ∈ t.head?, p a = false) :
    (s ++ t).takeWhile p = s := by
  rw [List.takeWhile_append_of_pos hs]
  cases t with
  | nil => simp
  | cons a t => simp [ht a rfl]

/-- What follows elements with a property, and begins with none, is left when they are dropped. -/
theorem dropWhile_append_of_head (hs : ∀ a ∈ s, p a = true) (ht : ∀ a ∈ t.head?, p a = false) :
    (s ++ t).dropWhile p = t := by
  rw [List.dropWhile_append_of_pos hs]
  cases t with
  | nil => rfl
  | cons a t => simp [ht a rfl]

/-- What is left begins with no element that has the property. -/
theorem head?_dropWhile (p : α → Bool) (s : List α) : ∀ a ∈ (s.dropWhile p).head?, p a = false := by
  intro a ha
  have h := List.head?_dropWhile_not p s
  rw [Option.mem_def.1 ha] at h
  exact h

/-- The first of some elements is the first of all. -/
theorem forall_mem_head?_take {P : α → Prop} (n : Nat) (h : ∀ a ∈ s.head?, P a) :
    ∀ a ∈ (s.take n).head?, P a := by
  intro a ha
  rw [List.head?_take] at ha
  split at ha
  · cases ha
  · exact h a ha

/-- What `takeWhile` finds in the first elements is the longest prefix. -/
theorem of_take (p : α → Bool) (width : Nat) (s : List α) :
    LongestPrefix p width s ((s.take width).takeWhile p)
      ((s.take width).dropWhile p ++ s.drop width) where
  split := by rw [← List.append_assoc, List.takeWhile_append_dropWhile, List.take_append_drop]
  forall_mem := fun _ ha => List.mem_takeWhile_imp ha
  length_le := (List.takeWhile_prefix p).length_le.trans (List.length_take_le _ _)
  maximal := by
    cases hdrop : (s.take width).dropWhile p with
    | cons b bs =>
      refine .inr fun a ha => head?_dropWhile p (s.take width) a ?_
      rwa [hdrop]
    | nil =>
      have htake : (s.take width).takeWhile p = s.take width := by
        simpa [hdrop] using List.takeWhile_append_dropWhile (p := p) (l := s.take width)
      rcases Nat.lt_or_ge s.length width with hlt | hle
      · rw [List.drop_of_length_le hlt.le]
        exact .inr nofun
      · rw [htake, List.length_take, Nat.min_eq_left hle]
        exact .inl rfl

/-- The longest prefix is what `takeWhile` finds within the width. -/
theorem takeWhile_take (h : LongestPrefix p width s u rest) : (s.take width).takeWhile p = u := by
  obtain ⟨rfl, hu, hle, hmax⟩ := h
  rcases hmax with rfl | hhead
  · rw [List.take_left, List.takeWhile_eq_self_iff.2 hu]
  · rw [List.take_append, List.take_of_length_le hle]
    exact takeWhile_append_of_head hu (forall_mem_head?_take _ hhead)

/-- A text begins with its longest prefix, when there is one. -/
theorem forall_mem_head? (h : LongestPrefix p width s u rest) (hne : u ≠ []) :
    ∀ a ∈ s.head?, p a = true := by
  intro a ha
  obtain ⟨b, u, rfl⟩ := List.exists_cons_of_ne_nil hne
  rw [h.split] at ha
  cases ha
  exact h.forall_mem a (.head _)

/-- What is behind the longest prefix is the rest of the text. -/
theorem drop_length (h : LongestPrefix p width s u rest) : s.drop u.length = rest := by
  rw [h.split, List.drop_left]

end LongestPrefix

open LongestPrefix

/-- So there is one longest prefix, which the two functions compute. -/
theorem longestPrefix_iff : LongestPrefix p width s u rest ↔
    (s.take width).takeWhile p = u ∧ s.drop u.length = rest := by
  refine ⟨fun h => ⟨h.takeWhile_take, h.drop_length⟩, ?_⟩
  rintro ⟨rfl, rfl⟩
  have h := of_take p width s
  rwa [h.drop_length]

/-- The longest prefix of elements with the property that are followed by one without it. -/
theorem longestPrefix_append {c : α} (hs : ∀ a ∈ s, p a = true) (hc : p c = false) :
    LongestPrefix p width (s ++ c :: t) (s.take width) (s.drop width ++ c :: t) where
  split := by rw [← List.append_assoc, List.take_append_drop]
  forall_mem := fun a ha => hs a (List.mem_of_mem_take ha)
  length_le := List.length_take_le _ _
  maximal := by
    rcases Nat.lt_or_ge s.length width with hlt | hle
    · rw [List.drop_of_length_le hlt.le]
      refine .inr fun a ha => ?_
      cases ha
      exact hc
    · rw [List.length_take, Nat.min_eq_left hle]
      exact .inl rfl
