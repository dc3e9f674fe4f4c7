import Mathlib.Order.Basic

/-!
# Copies and their validators

A server hands out copies of a content that changes. Each copy has the key that the server showed
with it, and a client that shows a key back may be told that its copy is current when that key is
not before the present one. `Coherent` is the invariant which makes that answer right
(`Coherent.content_eq`). It survives what hands out a copy and what moves the key on, and a write
when the copies of another content are left behind by the new key.
-/

namespace Validator

variable {κ β : Type} [Preorder κ]

/-- A copy of a content, under the key of its time. -/
structure Copy (κ β : Type) where
  key : κ
  content : β

/-- No copy is under a later key, and one of another content is under an earlier key. -/
structure Coherent (key : κ) (content : β) (copies : List (Copy κ β)) : Prop where
  past : ∀ c ∈ copies, c.key ≤ key
  behind : ∀ c ∈ copies, c.content ≠ content → c.key < key

variable {key key' : κ} {content content' : β} {copies : List (Copy κ β)}

/-- Without copies there is nothing to contradict. -/
theorem Coherent.nil : Coherent key content [] :=
  ⟨List.forall_mem_nil _, List.forall_mem_nil _⟩

/-- A copy of the present content is handed out. -/
theorem Coherent.serve (h : Coherent key content copies) :
    Coherent key content (copies ++ [⟨key, content⟩]) where
  past := List.forall_mem_append.2 ⟨h.past, List.forall_mem_singleton.2 (le_refl key)⟩
  behind := List.forall_mem_append.2
    ⟨h.behind, List.forall_mem_singleton.2 fun hne => absurd rfl hne⟩

/-- The content is written, and the key moves past the copies of another one. -/
theorem Coherent.write (h : Coherent key content copies) (hle : key ≤ key')
    (hnew : ∀ c ∈ copies, c.content ≠ content' → c.key < key') : Coherent key' content' copies :=
  ⟨fun c hc => (h.past c hc).trans hle, hnew⟩

/-- The key moves on. -/
theorem Coherent.advance (h : Coherent key content copies) (hle : key ≤ key') :
    Coherent key' content copies :=
  h.write hle fun c hc hne => (h.behind c hc hne).trans_le hle

/-- A copy whose key is not before the present one is current. -/
theorem Coherent.content_eq (h : Coherent key content copies) {c : Copy κ β} (hc : c ∈ copies)
    (hkey : ¬ c.key < key) : c.content = content := by
  by_contra hne
  exact hkey (h.behind c hc hne)

end Validator
