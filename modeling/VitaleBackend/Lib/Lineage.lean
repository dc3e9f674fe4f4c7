import Mathlib.Data.List.Basic

/-!
# Updates of a shared cell

Several writers update one cell. Each reads it, works on what it read, and overwrites the cell,
whatever the others wrote meanwhile. What is in the cell was made by a chain of updates, each of
which read what the one before it wrote (`Written.exists_chain`). The other updates are lost to it,
but not too many of them: when no update misses more than `k` others, at least one in `k + 1` is in
the chain.
-/

namespace Lineage

variable {ι σ : Type} (read wrote : ι → σ) (unseen : ι → Nat) (start : σ)

/-- What is in the cell after some updates. -/
def content (us : List ι) : σ := (us.getLast?.map wrote).getD start

/-- Each update read what the one before it wrote. -/
def Chain : σ → List ι → Prop
  | _, [] => True
  | start, u :: us => read u = start ∧ Chain (wrote u) us

/-- Updates in the order in which they were written. Each read the cell as it was before the last of
the others, which are `unseen` by it. -/
inductive Written : List ι → Prop
  | nil : Written []
  | write {us : List ι} {u : ι} : Written us → unseen u ≤ us.length →
      read u = content wrote start (us.take (us.length - unseen u)) → Written (us ++ [u])

section
variable {read wrote unseen start} {us : List ι} {u : ι}

/-- After a last update the cell has what that one wrote. -/
@[simp] theorem content_concat : content wrote start (us ++ [u]) = wrote u := by
  simp [content]

/-- A first update changes what the others start from. -/
theorem content_cons (start : σ) (u : ι) (us : List ι) :
    content wrote start (u :: us) = content wrote (wrote u) us := by
  cases us with
  | nil => rfl
  | cons v us =>
    rw [content, content, List.getLast?_cons_cons]
    cases h : (v :: us).getLast? with
    | none => cases List.getLast?_eq_none_iff.1 h
    | some w => rfl

/-- A chain goes on with an update that read what the chain has written. -/
theorem chain_concat : Chain read wrote start (us ++ [u]) ↔
    Chain read wrote start us ∧ read u = content wrote start us := by
  induction us generalizing start with
  | nil => exact ⟨fun h => ⟨trivial, h.1⟩, fun h => ⟨h.2, trivial⟩⟩
  | cons v us ih => rw [content_cons, List.cons_append, Chain, Chain, ih, and_assoc]

/-- What is in the cell was made by a chain of updates, and by at least one in `k + 1` of all when
no update misses more than `k` others. -/
theorem Written.exists_chain (h : Written read wrote unseen start us) : ∃ chain,
    chain.Sublist us ∧ Chain read wrote start chain ∧
      content wrote start chain = content wrote start us ∧
      ∀ k, (∀ u ∈ us, unseen u ≤ k) → us.length ≤ (k + 1) * chain.length := by
  -- there is such a chain at every time so far, and an update continues the one that it saw
  have hall : ∀ n ≤ us.length, ∃ chain, chain.Sublist (us.take n) ∧ Chain read wrote start chain ∧
      content wrote start chain = content wrote start (us.take n) ∧
      ∀ k, (∀ u ∈ us, unseen u ≤ k) → n ≤ (k + 1) * chain.length := by
    induction h with
    | nil =>
      intro n hn
      obtain rfl : n = 0 := Nat.le_zero.1 hn
      exact ⟨[], List.Sublist.refl _, trivial, rfl, fun k _ => Nat.zero_le _⟩
    | @write us u hus hle hread ih =>
      intro n hn
      rw [List.length_append, List.length_singleton] at hn
      rcases Nat.le_succ_iff.1 hn with hn | rfl
      · obtain ⟨chain, hsub, hchain, hcontent, hlen⟩ := ih n hn
        rw [List.take_append_of_le_length hn]
        exact ⟨chain, hsub, hchain, hcontent, fun k hk => hlen k fun v hv =>
          hk v (List.mem_append_left _ hv)⟩
      · obtain ⟨chain, hsub, hchain, hcontent, hlen⟩ := ih _ (Nat.sub_le us.length (unseen u))
        rw [List.take_of_length_le (by simp)]
        refine ⟨chain ++ [u], ?_, chain_concat.2 ⟨hchain, hread.trans hcontent.symm⟩, ?_, ?_⟩
        · exact (hsub.trans (List.take_sublist _ _)).append (List.Sublist.refl _)
        · rw [content_concat, content_concat]
        · intro k hk
          have hsaw := hlen k fun v hv => hk v (List.mem_append_left _ hv)
          have hmissed := hk u (List.mem_append_right _ (.head _))
          rw [List.length_append, List.length_singleton, Nat.mul_add, Nat.mul_one]
          omega
  obtain ⟨chain, hsub, hchain, hcontent, hlen⟩ := hall us.length (Nat.le_refl _)
  rw [List.take_length] at hsub hcontent
  exact ⟨chain, hsub, hchain, hcontent, hlen⟩

end

end Lineage
