import Mathlib.Data.List.Chain
import Mathlib.Logic.Relation

/-!
# Readers of a state that others change

A state moves by the steps of a relation while its clients read it. A request looks at the state
once or several times, and what it answers may be what no single state says. `At` is when its answer
is that of one moment between its first look and its last, and then whatever is monotone along the
steps is monotone along the answers of a client (`IsSession.answers_pairwise`).
-/

namespace Moments

open Relation

variable {σ α ρ : Type} {R : σ → σ → Prop}

/-! ## Runs -/

/-- A run from one state to another and the states it visits, both ends included. -/
inductive Visits (R : σ → σ → Prop) : σ → List σ → σ → Prop
  | stay (a : σ) : Visits R a [a] a
  | step {a b c : σ} {l : List σ} : R a b → Visits R b l c → Visits R a (a :: l) c

section
variable {a b c : σ} {l : List σ}

/-- The start of a run is visited. -/
theorem Visits.first_mem (h : Visits R a l b) : a ∈ l := by
  cases h <;> exact .head _

/-- A run leads from its start to its end by steps. -/
theorem Visits.reflTransGen (h : Visits R a l b) : ReflTransGen R a b := by
  induction h with
  | stay a => exact .refl
  | step hstep _ ih => exact .head hstep ih

/-- Every state that is visited can be reached, and the end from it. -/
theorem Visits.reaches (h : Visits R a l b) (hc : c ∈ l) :
    ReflTransGen R a c ∧ ReflTransGen R c b := by
  induction h with
  | stay a =>
    obtain rfl := List.mem_singleton.1 hc
    exact ⟨.refl, .refl⟩
  | step hstep hl ih =>
    rcases List.mem_cons.1 hc with rfl | hc
    · exact ⟨.refl, .head hstep hl.reflTransGen⟩
    · exact ⟨.head hstep (ih hc).1, (ih hc).2⟩

/-- Whatever can be reached is reached by a run that visits some states. -/
theorem exists_visits (h : ReflTransGen R a b) : ∃ l, Visits R a l b := by
  induction h using ReflTransGen.head_induction_on with
  | refl => exact ⟨_, .stay b⟩
  | head hstep _ ih =>
    obtain ⟨l, hl⟩ := ih
    exact ⟨_, .step hstep hl⟩

/-- What does not hold in the beginning and holds in the end begins to hold by some step. -/
theorem Visits.exists_crossing {p : σ → Prop} (h : Visits R a l b) (ha : ¬ p a) (hb : p b) :
    ∃ c ∈ l, ∃ d ∈ l, R c d ∧ ¬ p c ∧ p d := by
  induction h with
  | stay a => exact absurd hb ha
  | @step a b' b l hstep hl ih =>
    by_cases hb' : p b'
    · exact ⟨a, .head _, b', .tail _ hl.first_mem, hstep, ha, hb'⟩
    · obtain ⟨c, hc, d, hd, hcd⟩ := ih hb' hb
      exact ⟨c, .tail _ hc, d, .tail _ hd, hcd⟩

end

/-- What every step raises, a run raises. -/
theorem le_of_steps {le : α → α → Prop} [Std.Refl le] [IsTrans α le] {f : σ → α}
    (hf : ∀ a b, R a b → le (f a) (f b)) {a b : σ} (h : ReflTransGen R a b) : le (f a) (f b) := by
  induction h with
  | refl => exact refl_of le _
  | tail _ hstep ih => exact trans_of le ih (hf _ _ hstep)

/-! ## Sessions -/

/-- The requests of one client, each from a state to a later one, and each after the one before. -/
structure IsSession (R : σ → σ → Prop) (first last : ρ → σ) (qs : List ρ) : Prop where
  lasts : ∀ q ∈ qs, ReflTransGen R (first q) (last q)
  follows : qs.IsChain fun q q' => ReflTransGen R (last q) (first q')

section
variable {first last : ρ → σ} {q : ρ} {qs : List ρ}

/-- A session without its first request is a session. -/
theorem IsSession.tail (h : IsSession R first last (q :: qs)) : IsSession R first last qs :=
  ⟨fun q' hq' => h.lasts q' (.tail _ hq'), h.follows.tail⟩

/-- A request begins after all those before it are over. -/
theorem IsSession.pairwise (h : IsSession R first last qs) :
    qs.Pairwise fun q q' => ReflTransGen R (last q) (first q') := by
  induction qs with
  | nil => exact .nil
  | cons q qs ih =>
    have hqs := ih h.tail
    refine List.pairwise_cons.2 ⟨fun q' hq' => ?_, hqs⟩
    cases qs with
    | nil => cases hq'
    | cons q₁ qs =>
      have hnext : ReflTransGen R (last q) (first q₁) := (List.isChain_cons_cons.1 h.follows).1
      rcases List.mem_cons.1 hq' with rfl | hq'
      · exact hnext
      · have hover : ReflTransGen R (last q) (last q₁) :=
          hnext.trans (h.lasts q₁ (.tail _ (.head _)))
        exact hover.trans (List.rel_of_pairwise_cons hqs hq')

/-- The answer of a request is what a reading says at one moment of it. -/
def At (R : σ → σ → Prop) (first last : σ) (f : σ → α) (answer : α) : Prop :=
  ∃ c, ReflTransGen R first c ∧ ReflTransGen R c last ∧ answer = f c

/-- The answers of a client to a reading that no step lowers do not go down. -/
theorem IsSession.answers_pairwise {le : α → α → Prop} [Std.Refl le] [IsTrans α le] {f : σ → α}
    {answer : ρ → α} (h : IsSession R first last qs) (hf : ∀ a b, R a b → le (f a) (f b))
    (hat : ∀ q ∈ qs, At R (first q) (last q) f (answer q)) : (qs.map answer).Pairwise le := by
  refine List.pairwise_map.2 (h.pairwise.imp_of_mem fun {q q'} hq hq' hbefore => ?_)
  obtain ⟨c, -, hc, hanswer⟩ := hat q hq
  obtain ⟨c', hc', -, hanswer'⟩ := hat q' hq'
  rw [hanswer, hanswer']
  exact le_of_steps hf ((hc.trans hbefore).trans hc')

/-- What steps keep true, and a request has shown, no later request of the client denies, when each
shows what is true in its end and denies what is false in its beginning. -/
theorem IsSession.never_denied {φ : Type} {holds : φ → σ → Prop} {shows denies : ρ → φ → Prop}
    (h : IsSession R first last qs) (hkept : ∀ f a b, R a b → holds f a → holds f b)
    (hshows : ∀ q ∈ qs, ∀ f, shows q f → holds f (last q))
    (hdenies : ∀ q ∈ qs, ∀ f, denies q f → ¬ holds f (first q)) :
    qs.Pairwise fun q q' => ∀ f, shows q f → ¬ denies q' f := by
  have hrun : ∀ f a b, ReflTransGen R a b → holds f a → holds f b := by
    intro f a b hab ha
    induction hab with
    | refl => exact ha
    | tail _ hstep ih => exact hkept f _ _ hstep ih
  refine h.pairwise.imp_of_mem fun {q q'} hq hq' hbefore f hshown hdenied => ?_
  exact hdenies q' hq' f hdenied (hrun f _ _ hbefore (hshows q hq f hshown))

end

end Moments
