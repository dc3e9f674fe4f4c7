import Mathlib.Order.Defs.Unbundled

/-!
# Processes over a shared state

A process reads and writes a state and ends in one of three ways: it returns a value, it throws,
or it is stopped from outside. A handler (`Proc.attempt`) catches what is thrown and never a stop,
and what the process wrote before it threw stays written; undoing a write is the business of the
state's own operations.

`Proc.Within R` is the rule of frames: every run of the process moves the state along the preorder
`R`. It is closed under sequencing, handlers and loops, so that a frame condition of a long process
is read off its operations.
-/

namespace Process

variable {σ ε α β γ : Type}

/-- How a run ends: with a value, with an exception, or stopped before its end. -/
inductive Outcome (ε α : Type) where
  | ok (a : α)
  | error (e : ε)
  | stopped
  deriving Repr, DecidableEq

/-- A process over states `σ` that returns an `α` or throws an `ε`. -/
def Proc (σ ε α : Type) : Type := σ → Outcome ε α × σ

namespace Proc

/-- Sequencing: a later step runs only after a value. -/
protected def bind (m : Proc σ ε α) (f : α → Proc σ ε β) : Proc σ ε β := fun s =>
  match m s with
  | (.ok a, s') => f a s'
  | (.error e, s') => (.error e, s')
  | (.stopped, s') => (.stopped, s')

/-- Processes are written in `do` blocks. -/
instance : Monad (Proc σ ε) where
  pure a := fun s => (.ok a, s)
  bind := Proc.bind

/-- Throws an exception. -/
def throw (e : ε) : Proc σ ε α := fun s => (.error e, s)

/-- `try m catch e => handler e`. A stop is not an exception. -/
def attempt (m : Proc σ ε α) (handler : ε → Proc σ ε α) : Proc σ ε α := fun s =>
  match m s with
  | (.error e, s') => handler e s'
  | r => r

/-- Reads a component of the state. -/
def read (f : σ → α) : Proc σ ε α := fun s => (.ok (f s), s)

/-- Changes the state. -/
def modify (f : σ → σ) : Proc σ ε Unit := fun s => (.ok (), f s)

/-- A pure computation that may throw. -/
def ofExcept : Except ε α → Proc σ ε α
  | .ok a => fun s => (.ok a, s)
  | .error e => throw e

/-- `for (const auto& a : as) f(a);` -/
def forEach (f : α → Proc σ ε Unit) : List α → Proc σ ε Unit
  | [] => pure ()
  | a :: as => do
    f a
    forEach f as

/-! ## Equations of a run -/

@[simp] theorem pure_run (a : α) (s : σ) : (pure a : Proc σ ε α) s = (.ok a, s) := rfl
@[simp] theorem throw_run (e : ε) (s : σ) : (throw e : Proc σ ε α) s = (.error e, s) := rfl
@[simp] theorem read_run (f : σ → α) (s : σ) : (read f : Proc σ ε α) s = (.ok (f s), s) := rfl
@[simp] theorem modify_run (f : σ → σ) (s : σ) :
    (modify f : Proc σ ε Unit) s = (.ok (), f s) := rfl
@[simp] theorem ofExcept_ok (a : α) : (ofExcept (.ok a) : Proc σ ε α) = pure a := rfl
@[simp] theorem ofExcept_error (e : ε) :
    (ofExcept (.error e) : Proc σ ε α) = throw e := rfl

/-- A sequence runs its second step on the value and the state of the first, and ends where the
first one fails. -/
theorem bind_run (m : Proc σ ε α) (f : α → Proc σ ε β) (s : σ) :
    (m >>= f) s = match m s with
      | (.ok a, s') => f a s'
      | (.error e, s') => (.error e, s')
      | (.stopped, s') => (.stopped, s') := rfl

/-- A sequence whose first step returns goes on with the second. -/
theorem bind_ok {m : Proc σ ε α} {f : α → Proc σ ε β} {s s' : σ} {a : α}
    (h : m s = (.ok a, s')) : (m >>= f) s = f a s' := by
  rw [bind_run, h]

/-- A sequence whose first step throws ends there. -/
theorem bind_error {m : Proc σ ε α} {f : α → Proc σ ε β} {s s' : σ} {e : ε}
    (h : m s = (.error e, s')) : (m >>= f) s = (.error e, s') := by
  rw [bind_run, h]

/-- A sequence whose first step is stopped ends there. -/
theorem bind_stopped {m : Proc σ ε α} {f : α → Proc σ ε β} {s s' : σ}
    (h : m s = (.stopped, s')) : (m >>= f) s = (.stopped, s') := by
  rw [bind_run, h]

/-- A sequence that returns: its first step returned, and the rest did on what it returned. -/
theorem bind_eq_ok {m : Proc σ ε α} {f : α → Proc σ ε β} {s s' : σ} {b : β} :
    (m >>= f) s = (.ok b, s') ↔ ∃ a s₁, m s = (.ok a, s₁) ∧ f a s₁ = (.ok b, s') := by
  rw [bind_run]
  rcases m s with ⟨a | e | _, s₁⟩
  · refine ⟨fun h => ⟨a, s₁, rfl, h⟩, ?_⟩
    rintro ⟨_, _, ⟨⟩, h⟩
    exact h
  · refine ⟨nofun, ?_⟩
    rintro ⟨_, _, ⟨⟩, -⟩
  · refine ⟨nofun, ?_⟩
    rintro ⟨_, _, ⟨⟩, -⟩

/-- A handler runs on what is thrown, in the state in which it is thrown. -/
theorem attempt_run (m : Proc σ ε α) (handler : ε → Proc σ ε α) (s : σ) :
    attempt m handler s = match m s with
      | (.error e, s') => handler e s'
      | r => r := rfl

/-- A loop over nothing does nothing. -/
@[simp] theorem forEach_nil (f : α → Proc σ ε Unit) : forEach f [] = pure () := rfl

/-- A loop runs its first round, and then the others. -/
theorem forEach_cons (f : α → Proc σ ε Unit) (a : α) (as : List α) :
    forEach f (a :: as) = f a >>= fun _ => forEach f as := rfl

/-- Sequencing has the laws of a monad, so that the simp set of `do` blocks applies. -/
instance : LawfulMonad (Proc σ ε) := by
  refine LawfulMonad.mk' _ (fun m => ?_) (fun _ _ => rfl) (fun m f g => ?_)
  · funext s
    show Proc.bind m _ s = m s
    unfold Proc.bind
    rcases m s with ⟨_ | _ | _, _⟩ <;> rfl
  · funext s
    show Proc.bind (Proc.bind m f) g s = Proc.bind m (fun a => Proc.bind (f a) g) s
    unfold Proc.bind
    rcases m s with ⟨_ | _ | _, _⟩ <;> rfl

/-- A loop over two lists in a row is the one loop after the other. -/
theorem forEach_append (f : α → Proc σ ε Unit) (as bs : List α) :
    forEach f (as ++ bs) = forEach f as >>= fun _ => forEach f bs := by
  induction as with
  | nil => rw [List.nil_append, forEach_nil, pure_bind]
  | cons a as ih => rw [List.cons_append, forEach_cons, forEach_cons, ih, bind_assoc]

/-! ## Frames -/

/-- Every run of the process moves the state along `R`, however it ends. -/
def Within (R : σ → σ → Prop) (m : Proc σ ε α) : Prop := ∀ s, R s (m s).2

section
variable {R : σ → σ → Prop}

/-- To return a value is within any reflexive relation. -/
theorem Within.pure [Std.Refl R] (a : α) : Within R (Pure.pure a : Proc σ ε α) :=
  fun s => refl_of R s

/-- To throw is within it as well: the state stays. -/
theorem Within.throw [Std.Refl R] (e : ε) : Within R (throw e : Proc σ ε α) :=
  fun s => refl_of R s

/-- So is reading the state. -/
theorem Within.read [Std.Refl R] (f : σ → α) : Within R (read f : Proc σ ε α) :=
  fun s => refl_of R s

/-- So is a pure computation that may throw. -/
theorem Within.ofExcept [Std.Refl R] : ∀ x : Except ε α, Within R (ofExcept x : Proc σ ε α)
  | .ok a => Within.pure a
  | .error e => Within.throw e

/-- A change of the state is within a relation that relates each state to its change. -/
theorem Within.modify {f : σ → σ} (h : ∀ s, R s (f s)) :
    Within R (modify f : Proc σ ε Unit) := h

/-- The rule of sequencing, when the steps move the state along relations of their own. -/
theorem Within.bind_of {S T : σ → σ → Prop} {m : Proc σ ε α} {f : α → Proc σ ε β}
    (hm : Within R m) (hf : ∀ a, Within S (f a)) (hboth : ∀ s t u, R s t → S t u → T s u)
    (hfirst : ∀ s t, R s t → T s t) : Within T (m >>= f) := by
  intro s
  have h := hm s
  rw [bind_run]
  rcases hms : m s with ⟨a | e | _, s'⟩ <;> rw [hms] at h
  · exact hboth s s' _ h (hf a s')
  · exact hfirst s s' h
  · exact hfirst s s' h

/-- The rule of sequencing. -/
theorem Within.bind [IsTrans σ R] {m : Proc σ ε α} {f : α → Proc σ ε β}
    (hm : Within R m) (hf : ∀ a, Within R (f a)) : Within R (m >>= f) :=
  hm.bind_of hf (fun _ _ _ => trans_of R) fun _ _ => id

/-- The rule of handlers. -/
theorem Within.attempt [IsTrans σ R] {m : Proc σ ε α} {handler : ε → Proc σ ε α}
    (hm : Within R m) (hh : ∀ e, Within R (handler e)) : Within R (attempt m handler) := by
  intro s
  have h := hm s
  rw [attempt_run]
  rcases hms : m s with ⟨a | e | _, s'⟩ <;> rw [hms] at h
  · exact h
  · exact trans_of R h (hh e s')
  · exact h

/-- The rule of handlers, when what a handler does moves the state along a relation of its own. -/
theorem Within.attempt_of {S : σ → σ → Prop} {m : Proc σ ε α} {handler : ε → Proc σ ε α}
    (hm : Within R m) (hh : ∀ e, Within S (handler e)) (hboth : ∀ s t u, R s t → S t u → R s u) :
    Within R (Proc.attempt m handler) := by
  intro s
  have h := hm s
  rw [attempt_run]
  rcases hms : m s with ⟨a | e | _, s'⟩ <;> rw [hms] at h
  · exact h
  · exact hboth s s' _ h (hh e s')
  · exact h

/-- The rule of loops. -/
theorem Within.forEach [Std.Refl R] [IsTrans σ R] {f : α → Proc σ ε Unit} {as : List α}
    (h : ∀ a ∈ as, Within R (f a)) : Within R (forEach f as) := by
  induction as with
  | nil => exact Within.pure ()
  | cons a as ih =>
    exact Within.bind (h a (.head _)) fun _ => ih fun b hb => h b (.tail _ hb)

end

/-! ## Runs that are not stopped -/

/-- Started where `P` holds the process is not stopped, and `P` holds when it is over. -/
def Ends (P : σ → Prop) (m : Proc σ ε α) : Prop := ∀ s, P s → (m s).1 ≠ .stopped ∧ P (m s).2

section
variable {P : σ → Prop}

/-- To return a value keeps what holds. -/
theorem Ends.pure (a : α) : Ends P (Pure.pure a : Proc σ ε α) := fun _ h => ⟨nofun, h⟩

/-- A change of the state keeps what holds of the changed states. -/
theorem Ends.modify {f : σ → σ} (hf : ∀ s, P s → P (f s)) :
    Ends P (modify f : Proc σ ε Unit) := fun s h => ⟨nofun, hf s h⟩

/-- A sequence keeps what both of its steps keep. -/
theorem Ends.bind {m : Proc σ ε α} {f : α → Proc σ ε β} (hm : Ends P m)
    (hf : ∀ a, Ends P (f a)) : Ends P (m >>= f) := by
  intro s hs
  obtain ⟨hne, hp⟩ := hm s hs
  rw [bind_run]
  rcases hms : m s with ⟨a | e | _, s'⟩ <;> rw [hms] at hne hp
  · exact hf a s' hp
  · exact ⟨nofun, hp⟩
  · exact absurd rfl hne

/-- A loop keeps what its rounds keep, by induction on them. -/
theorem Ends.forEach {f : α → Proc σ ε Unit} {as : List α} (h : ∀ a ∈ as, Ends P (f a)) :
    Ends P (forEach f as) := by
  induction as with
  | nil => exact Ends.pure ()
  | cons a as ih =>
    exact Ends.bind (h a (.head _)) fun _ => ih fun b hb => h b (.tail _ hb)

/-- A process that is not stopped returns when its handler does. -/
theorem Ends.attempt_ok {m : Proc σ ε Unit} {handler : ε → Proc σ ε Unit} (hm : Ends P m)
    (hh : ∀ e s, P s → (handler e s).1 = .ok () ∧ P (handler e s).2) (s : σ) (hs : P s) :
    (attempt m handler s).1 = .ok () ∧ P (attempt m handler s).2 := by
  obtain ⟨hne, hp⟩ := hm s hs
  rw [attempt_run]
  rcases hms : m s with ⟨a | e | _, s'⟩ <;> rw [hms] at hne hp
  · exact ⟨rfl, hp⟩
  · exact hh e s' hp
  · exact absurd rfl hne

end

/-! ## Runs that do not throw -/

/-- The process returns or is stopped, wherever it is started. -/
def NoThrow (m : Proc σ ε α) : Prop := ∀ s e, (m s).1 ≠ .error e

/-- A returned value is not thrown. -/
theorem NoThrow.pure (a : α) : NoThrow (Pure.pure a : Proc σ ε α) := fun _ _ => nofun

/-- Reading the state throws nothing. -/
theorem NoThrow.read (f : σ → α) : NoThrow (read f : Proc σ ε α) := fun _ _ => nofun

/-- Changing it throws nothing. -/
theorem NoThrow.modify (f : σ → σ) : NoThrow (modify f : Proc σ ε Unit) := fun _ _ => nofun

/-- What a sequence throws its second step throws, when its first step throws nothing. -/
theorem NoThrow.bind_error_iff {m : Proc σ ε α} {f : α → Proc σ ε β} (hm : NoThrow m) {s : σ}
    {e : ε} : ((m >>= f) s).1 = .error e ↔ ∃ a s', m s = (.ok a, s') ∧ (f a s').1 = .error e := by
  rw [bind_run]
  have hne := hm s
  rcases hms : m s with ⟨a | e' | _, s'⟩ <;> rw [hms] at hne
  · refine ⟨fun h => ⟨a, s', rfl, h⟩, ?_⟩
    rintro ⟨_, _, ⟨⟩, h⟩
    exact h
  · exact absurd rfl (hne e')
  · exact ⟨nofun, fun ⟨_, _, h, _⟩ => nomatch h⟩

/-- What a sequence throws its first step throws, when what follows throws nothing. -/
theorem NoThrow.error_bind_iff {m : Proc σ ε α} {f : α → Proc σ ε β} (hf : ∀ a, NoThrow (f a))
    {s : σ} {e : ε} : ((m >>= f) s).1 = .error e ↔ (m s).1 = .error e := by
  rw [bind_run]
  rcases m s with ⟨a | e' | _, s'⟩
  · exact ⟨fun h => absurd h (hf a s' e), nofun⟩
  · exact ⟨fun h => by cases h; rfl, fun h => by cases h; rfl⟩
  · exact ⟨nofun, nofun⟩

/-- A sequence throws nothing when neither of its steps does. -/
theorem NoThrow.bind {m : Proc σ ε α} {f : α → Proc σ ε β} (hm : NoThrow m)
    (hf : ∀ a, NoThrow (f a)) : NoThrow (m >>= f) := by
  intro s e h
  obtain ⟨a, s', -, h⟩ := hm.bind_error_iff.1 h
  exact hf a s' e h

/-- A handler that does not throw swallows whatever is thrown. -/
theorem NoThrow.attempt {m : Proc σ ε α} {handler : ε → Proc σ ε α}
    (hh : ∀ e, NoThrow (handler e)) : NoThrow (attempt m handler) := by
  intro s e
  rw [attempt_run]
  rcases hms : m s with ⟨a | e' | _, s'⟩
  · exact nofun
  · exact hh e' s' e
  · exact nofun

/-- Two states agree on a component. -/
def Keeps (f : σ → γ) (s s' : σ) : Prop := f s' = f s

/-- Nothing that is looked at changes when nothing is done. -/
instance (f : σ → γ) : Std.Refl (Keeps f) := ⟨fun _ => rfl⟩

/-- What two steps keep, they keep one after the other. -/
instance (f : σ → γ) : IsTrans σ (Keeps f) := ⟨fun _ _ _ h h' => Eq.trans h' h⟩

/-- A counter does not go down. -/
def Counts (f : σ → Nat) (s s' : σ) : Prop := f s ≤ f s'

/-- A count stays when nothing is done. -/
instance (f : σ → Nat) : Std.Refl (Counts f) := ⟨fun s => Nat.le_refl (f s)⟩

/-- Counts that both steps do not lower, they do not lower one after the other. -/
instance (f : σ → Nat) : IsTrans σ (Counts f) := ⟨fun _ _ _ h h' => Nat.le_trans h h'⟩

end Proc

end Process
