import Mathlib.Data.List.Basic
import VitaleBackend.Lib.Proc

/-!
# Processes that keep a journal

A process over `σ × List ω` writes entries of a journal beside what it does to the state. `Erases`
says that without the journal it is a given process, so that what is known of that one holds of it.
`Wrote T` relates what is written to the states before and after, and is a relation of frames
(`Proc.Within`) when `T` composes: what holds of every step holds of a run, however it ends.
-/

namespace Process

variable {σ ε ω α β : Type}

namespace Proc

/-- A process that writes nothing into the journal. -/
def silent (m : Proc σ ε α) : Proc (σ × List ω) ε α := fun p => ((m p.1).1, (m p.1).2, p.2)

/-- Writes one entry. -/
def tell (w : ω) : Proc (σ × List ω) ε Unit := modify fun p => (p.1, p.2 ++ [w])

@[simp] theorem silent_run (m : Proc σ ε α) (p : σ × List ω) :
    silent m p = ((m p.1).1, (m p.1).2, p.2) := rfl

@[simp] theorem tell_run (w : ω) (p : σ × List ω) :
    (tell w : Proc (σ × List ω) ε Unit) p = (.ok (), p.1, p.2 ++ [w]) := rfl

/-- The entries of a loop that does nothing else. -/
theorem forEach_tell_run (f : α → ω) (as : List α) (p : σ × List ω) :
    (forEach (fun a => tell (f a)) as : Proc (σ × List ω) ε Unit) p =
      (.ok (), p.1, p.2 ++ as.map f) := by
  induction as generalizing p with
  | nil => simp
  | cons a as ih =>
    rw [forEach_cons, bind_ok (tell_run (f a) p), ih]
    simp

/-! ## Erasure -/

/-- Without its journal `m'` is `m`. -/
def Erases (m' : Proc (σ × List ω) ε α) (m : Proc σ ε α) : Prop :=
  ∀ p, (m' p).1 = (m p.1).1 ∧ (m' p).2.1 = (m p.1).2

/-- A value that is returned writes nothing. -/
theorem Erases.pure (a : α) : Erases (Pure.pure a : Proc (σ × List ω) ε α) (Pure.pure a) :=
  fun _ => ⟨rfl, rfl⟩

/-- A process without a journal is the process itself. -/
theorem Erases.silent (m : Proc σ ε α) : Erases (silent m : Proc (σ × List ω) ε α) m :=
  fun _ => ⟨rfl, rfl⟩

/-- Writing an entry changes no state. -/
theorem Erases.tell (w : ω) :
    Erases (tell w : Proc (σ × List ω) ε Unit) (Pure.pure () : Proc σ ε Unit) :=
  fun _ => ⟨rfl, rfl⟩

section
variable {m' : Proc (σ × List ω) ε α} {m : Proc σ ε α}

/-- Without their journals two steps are the two steps without a journal. -/
theorem Erases.bind {f' : α → Proc (σ × List ω) ε β} {f : α → Proc σ ε β} (hm : Erases m' m)
    (hf : ∀ a, Erases (f' a) (f a)) : Erases (m' >>= f') (m >>= f) := by
  intro p
  obtain ⟨houtcome, hstate⟩ := hm p
  rw [bind_run, bind_run]
  rcases hrun : m' p with ⟨a | e | _, q⟩ <;> rcases hrun' : m p.1 with ⟨a' | e' | _, s⟩ <;>
    rw [hrun, hrun'] at houtcome hstate <;> cases houtcome <;> cases hstate
  · exact hf a q
  · exact ⟨rfl, rfl⟩
  · exact ⟨rfl, rfl⟩

/-- An entry before a process. -/
theorem Erases.tell_bind (w : ω) (hm : Erases m' m) :
    Erases (Proc.tell w >>= fun _ => m') m := fun p => hm (p.1, p.2 ++ [w])

/-- An entry after a process. -/
theorem Erases.bind_tell {n' : Proc (σ × List ω) ε Unit} {n : Proc σ ε Unit} (hn : Erases n' n)
    (w : ω) : Erases (n' >>= fun _ => Proc.tell w) n := by
  have h : Erases (n' >>= fun _ => Proc.tell w) (n >>= fun _ => Pure.pure ()) :=
    hn.bind fun _ => .tell w
  rwa [show (n >>= fun _ => Pure.pure ()) = n from bind_pure n] at h

/-- So are a process and its handler, as what is thrown does not depend on the journal. -/
theorem Erases.attempt {handler' : ε → Proc (σ × List ω) ε α} {handler : ε → Proc σ ε α}
    (hm : Erases m' m) (hh : ∀ e, Erases (handler' e) (handler e)) :
    Erases (attempt m' handler') (attempt m handler) := by
  intro p
  obtain ⟨houtcome, hstate⟩ := hm p
  rw [attempt_run, attempt_run]
  rcases hrun : m' p with ⟨a | e | _, q⟩ <;> rcases hrun' : m p.1 with ⟨a' | e' | _, s⟩ <;>
    rw [hrun, hrun'] at houtcome hstate <;> cases houtcome <;> cases hstate
  · exact ⟨rfl, rfl⟩
  · exact hh e q
  · exact ⟨rfl, rfl⟩

/-- So are the rounds of a loop. -/
theorem Erases.forEach {f' : α → Proc (σ × List ω) ε Unit} {f : α → Proc σ ε Unit}
    (h : ∀ a, Erases (f' a) (f a)) (as : List α) : Erases (forEach f' as) (forEach f as) := by
  induction as with
  | nil => exact .pure ()
  | cons a as ih => exact (h a).bind fun _ => ih

end

/-- A status that tells whether something was thrown, when nobody asks for it. -/
theorem attempt_status_bind (m : Proc σ ε Unit) (handler : ε → Proc σ ε Unit) (a b : α)
    (k : Proc σ ε β) :
    (Proc.attempt (m >>= fun _ => Pure.pure a) (fun e => handler e >>= fun _ => Pure.pure b) >>=
      fun _ => k) = Proc.attempt m handler >>= fun _ => k := by
  funext s
  simp only [bind_run, attempt_run]
  rcases m s with ⟨u | e | _, t⟩
  · rfl
  · dsimp only
    rcases handler e t with ⟨u | e | _, t⟩ <;> rfl
  · rfl

/-! ## What a run writes -/

/-- The step from `p` to `q` writes entries that are in the relation `T` to the states before and
after it. -/
def Wrote (T : σ → σ → List ω → Prop) (p q : σ × List ω) : Prop :=
  ∃ more, q.2 = p.2 ++ more ∧ T p.1 q.1 more

/-- A relation between two states and what is written on the way that holds of two ways in a row
when it holds of each. -/
structure Composes (T : σ → σ → List ω → Prop) : Prop where
  refl : ∀ s, T s s []
  trans : ∀ {s t u w w'}, T s t w → T t u w' → T s u (w ++ w')

section
variable {T : σ → σ → List ω → Prop} {m : Proc σ ε α}

/-- To do and to write nothing is related. -/
theorem Composes.refl_wrote (h : Composes T) : Std.Refl (Wrote T) :=
  ⟨fun p => ⟨[], (List.append_nil _).symm, h.refl p.1⟩⟩

/-- Two ways in a row are related, with what is written on both. -/
theorem Composes.trans_wrote (h : Composes T) : IsTrans (σ × List ω) (Wrote T) := ⟨by
  rintro p q r ⟨more, hmore, hT⟩ ⟨more', hmore', hT'⟩
  exact ⟨more ++ more', by rw [hmore', hmore, List.append_assoc], h.trans hT hT'⟩⟩

/-- A process that writes nothing. -/
theorem Within.silent {Q : σ → σ → Prop} (hm : Within Q m) (h : ∀ s t, Q s t → T s t []) :
    Within (Wrote T) (Proc.silent m) :=
  fun p => ⟨[], (List.append_nil _).symm, h _ _ (hm p.1)⟩

/-- A process that writes one entry and changes nothing. -/
theorem Within.tell {w : ω} (h : ∀ s, T s s [w]) :
    Within (Wrote T) (Proc.tell w : Proc (σ × List ω) ε Unit) :=
  fun p => ⟨[w], rfl, h p.1⟩

/-- A process that writes nothing, with the entries that follow when it returns. -/
theorem Within.silent_bind {k : α → Proc (σ × List ω) ε β}
    (hok : ∀ s a t l, m s = (.ok a, t) → Wrote T (s, l) (k a (t, l)).2)
    (hfail : ∀ s, (∀ a, (m s).1 ≠ .ok a) → T s (m s).2 []) :
    Within (Wrote T) (Proc.silent m >>= k) := by
  intro p
  have hfail' := hfail p.1
  rw [bind_run, silent_run]
  rcases hrun : m p.1 with ⟨a | e | _, t⟩
  · exact hok p.1 a t p.2 hrun
  · rw [hrun] at hfail'
    exact ⟨[], (List.append_nil _).symm, hfail' nofun⟩
  · rw [hrun] at hfail'
    exact ⟨[], (List.append_nil _).symm, hfail' nofun⟩

end

end Proc

end Process
