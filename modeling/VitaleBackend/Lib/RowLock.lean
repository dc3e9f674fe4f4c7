import Mathlib.Logic.Function.Basic

/-!
# Row locks

Transactions that write rows of one keyed table under READ COMMITTED. A statement is about one row.
It sees the version of its own transaction, or else the committed one, and a statement that changes
a row keeps it locked until its transaction is over: no other transaction can write the row until
then. A statement that finds no row and makes none takes no lock and waits for none, even if another
transaction has inserted a row that is not committed yet.

A transaction that commits may have executed its statements long before, but it leaves what they
make, one after the other, of the rows that are committed at that moment (`commit_eq_replay`).
-/

namespace RowLock

variable {σ κ ρ τ : Type}

/-- A table with the versions of transactions that are not over. -/
structure State (σ κ ρ τ : Type) where
  committed : κ → Option ρ
  /-- who has locked a row, with its version of it -/
  held : κ → Option (τ × Option ρ)
  /-- the statements by which a transaction has changed rows -/
  written : τ → List σ

/-- No transaction has written anything. -/
def State.start (committed : κ → Option ρ) : State σ κ ρ τ :=
  ⟨committed, fun _ => none, fun _ => []⟩

section
variable [DecidableEq κ] (key : σ → κ) (apply : σ → Option ρ → Option ρ)

/-- What some statements make of a row, one after the other. -/
def replay (stmts : List σ) (k : κ) (v : Option ρ) : Option ρ :=
  stmts.foldl (fun v st => if key st = k then apply st v else v) v

variable {key apply}

/-- Without statements a row is as it was. -/
@[simp] theorem replay_nil (k : κ) (v : Option ρ) : replay key apply [] k v = v := rfl

/-- The first statement is applied first, if it is one of the row. -/
theorem replay_cons (st : σ) (stmts : List σ) (k : κ) (v : Option ρ) :
    replay key apply (st :: stmts) k v =
      replay key apply stmts k (if key st = k then apply st v else v) := rfl

/-- The last statement is applied last, if it is one of the row. -/
theorem replay_concat (stmts : List σ) (st : σ) (k : κ) (v : Option ρ) :
    replay key apply (stmts ++ [st]) k v =
      if key st = k then apply st (replay key apply stmts k v) else replay key apply stmts k v := by
  rw [replay, List.foldl_append, List.foldl_cons, List.foldl_nil]
  rfl

/-- Statements about other rows make nothing of a row. -/
theorem replay_of_forall_ne {stmts : List σ} {k : κ} (h : ∀ st ∈ stmts, key st ≠ k)
    (v : Option ρ) : replay key apply stmts k v = v := by
  induction stmts with
  | nil => rfl
  | cons st stmts ih =>
    rw [replay_cons, if_neg (h st (.head _))]
    exact ih fun st hst => h st (.tail _ hst)

/-- What every statement keeps of a row, they all keep. -/
theorem replay_induction {P : Option ρ → Prop} {stmts : List σ}
    (h : ∀ st ∈ stmts, ∀ v, P v → P (apply st v)) {k : κ} {v : Option ρ} (hv : P v) :
    P (replay key apply stmts k v) := by
  induction stmts generalizing v with
  | nil => exact hv
  | cons st stmts ih =>
    rw [replay_cons]
    refine ih (fun st hst => h st (.tail _ hst)) ?_
    split
    · exact h st (.head _) v hv
    · exact hv

end

namespace State

section
variable [DecidableEq τ]

/-- The version of a row that a transaction sees. -/
def visible (s : State σ κ ρ τ) (t : τ) (k : κ) : Option ρ :=
  match s.held k with
  | some (u, v) => if u = t then v else s.committed k
  | none => s.committed k

/-- Whether a transaction may write a row. -/
def free (s : State σ κ ρ τ) (t : τ) (k : κ) : Bool :=
  match s.held k with
  | some (u, _) => u = t
  | none => true

/-- A transaction is over: its locks and its versions go. -/
def close (t : τ) (committed : κ → Option ρ) (s : State σ κ ρ τ) : State σ κ ρ τ where
  committed
  held k := (s.held k).filter fun h => h.1 ≠ t
  written := Function.update s.written t []

/-- The versions of a transaction replace the committed ones. -/
def commit (t : τ) (s : State σ κ ρ τ) : State σ κ ρ τ := s.close t (s.visible t)

/-- The transaction ends and leaves the committed rows as they are. -/
def rollback (t : τ) (s : State σ κ ρ τ) : State σ κ ρ τ := s.close t s.committed

/-- The end of a transaction leaves the rows that it commits. -/
@[simp] theorem close_committed (t : τ) (committed : κ → Option ρ) (s : State σ κ ρ τ) :
    (s.close t committed).committed = committed := rfl

/-- The end of a transaction lets go of its rows, and of no others. -/
theorem close_held {t u : τ} {committed : κ → Option ρ} {s : State σ κ ρ τ} {k : κ}
    {v : Option ρ} :
    (s.close t committed).held k = some (u, v) ↔ s.held k = some (u, v) ∧ u ≠ t := by
  rw [close, Option.filter_eq_some_iff, decide_eq_true_iff]

/-- A transaction that is over has written nothing, and the others have written what they had. -/
theorem close_written (t : τ) (committed : κ → Option ρ) (s : State σ κ ρ τ) (u : τ) :
    (s.close t committed).written u = if u = t then [] else s.written u :=
  Function.update_apply _ _ _ _

end

section
variable [DecidableEq κ] [DecidableEq τ] (key : σ → κ) (apply : σ → Option ρ → Option ρ)

/-- A statement makes a version of its row. -/
def write (t : τ) (st : σ) (s : State σ κ ρ τ) : State σ κ ρ τ where
  committed := s.committed
  held := Function.update s.held (key st) (some (t, apply st (s.visible t (key st))))
  written := Function.update s.written t (s.written t ++ [st])

/-- A statement commits nothing. -/
@[simp] theorem write_committed (t : τ) (st : σ) (s : State σ κ ρ τ) :
    (s.write key apply t st).committed = s.committed := rfl

/-- A statement holds its row for its transaction, as it leaves it. -/
theorem write_held (t : τ) (st : σ) (s : State σ κ ρ τ) (k : κ) :
    (s.write key apply t st).held k =
      if k = key st then some (t, apply st (s.visible t (key st))) else s.held k :=
  Function.update_apply _ _ _ _

/-- A statement is the last of its transaction, and none of the others. -/
theorem write_written (t : τ) (st : σ) (s : State σ κ ρ τ) (u : τ) :
    (s.write key apply t st).written u = if u = t then s.written t ++ [st] else s.written u :=
  Function.update_apply _ _ _ _

/-- Executes a statement: `none` when it has to wait for a lock. -/
def exec (t : τ) (st : σ) (s : State σ κ ρ τ) : Option (State σ κ ρ τ) :=
  if (s.visible t (key st)).isNone && (apply st (s.visible t (key st))).isNone then some s
  else if s.free t (key st) then some (s.write key apply t st)
  else none

/-- What a transaction has written is what its statements make of the committed rows, and nobody
else has a version of these rows. -/
structure Isolated (s : State σ κ ρ τ) : Prop where
  held : ∀ k t v, s.held k = some (t, v) → v = replay key apply (s.written t) k (s.committed k)
  written : ∀ t, ∀ st ∈ s.written t, ∃ v, s.held (key st) = some (t, v)

variable {key apply} {s s' : State σ κ ρ τ} {t : τ} {st : σ}

omit [DecidableEq τ] in
/-- Nothing is held in the beginning. -/
theorem start_isolated (committed : κ → Option ρ) :
    (start committed : State σ κ ρ τ).Isolated key apply :=
  ⟨fun _ _ _ => nofun, fun _ => List.forall_mem_nil _⟩

/-- All that a statement can do: find and make no row, or write a row that is free. -/
theorem exec_cases (h : s.exec key apply t st = some s') :
    (s' = s ∧ s.visible t (key st) = none ∧ apply st none = none) ∨
      (s' = s.write key apply t st ∧ s.free t (key st) = true ∧
        (s.visible t (key st) = none → apply st none ≠ none)) := by
  rw [exec] at h
  split at h
  · next hnone =>
    cases h
    rw [Bool.and_eq_true, Option.isNone_iff_eq_none, Option.isNone_iff_eq_none] at hnone
    exact .inl ⟨rfl, hnone.1, hnone.1 ▸ hnone.2⟩
  · next hsome =>
    split at h
    · next hfree =>
      cases h
      refine .inr ⟨rfl, hfree, fun hv ha => hsome ?_⟩
      rw [hv, ha]
      rfl
    · cases h

/-- A statement commits nothing. -/
theorem exec_committed (h : s.exec key apply t st = some s') : s'.committed = s.committed := by
  rcases exec_cases h with ⟨rfl, -⟩ | ⟨rfl, -⟩ <;> rfl

omit [DecidableEq κ] in
/-- A row that a transaction may write has no version of another one. -/
theorem eq_of_free {k : κ} {u : τ} {v : Option ρ} (h : s.free t k = true)
    (hheld : s.held k = some (u, v)) : u = t := by
  rw [free, hheld] at h
  exact of_decide_eq_true h

namespace Isolated

omit [DecidableEq τ] in
/-- What a transaction has not locked, it has not written. -/
theorem replay_eq_self (h : s.Isolated key apply) {k : κ} (hk : ∀ v, s.held k ≠ some (t, v))
    (v : Option ρ) : replay key apply (s.written t) k v = v :=
  replay_of_forall_ne (fun st hst heq => by
    obtain ⟨v, hv⟩ := h.written t st hst
    exact hk v (heq ▸ hv)) v

/-- A transaction sees what its statements make of the committed row. -/
theorem visible_eq (h : s.Isolated key apply) (t : τ) (k : κ) :
    s.visible t k = replay key apply (s.written t) k (s.committed k) := by
  rw [visible]
  cases hk : s.held k with
  | none => exact (h.replay_eq_self (fun v hv => nomatch hk.symm.trans hv) _).symm
  | some p =>
    obtain ⟨u, v⟩ := p
    by_cases hut : u = t
    · subst hut
      simp only [if_true]
      exact h.held k u v hk
    · simp only [if_neg hut]
      refine (h.replay_eq_self (fun v' hv => hut ?_) _).symm
      cases hk.symm.trans hv
      rfl

/-- A statement on a row that nobody else holds keeps the transactions apart. -/
theorem write (h : s.Isolated key apply) (hfree : s.free t (key st) = true) :
    (s.write key apply t st).Isolated key apply := by
  refine ⟨fun k u v hk => ?_, fun u st' hst' => ?_⟩
  · rw [write_held] at hk
    rw [write_written, write_committed]
    split at hk
    · next hkey =>
      cases hk
      rw [if_pos rfl, replay_concat, if_pos hkey.symm, hkey, h.visible_eq]
    · next hkey =>
      have hv := h.held k u v hk
      split
      · next hut =>
        rw [replay_concat, if_neg (Ne.symm hkey), ← hut]
        exact hv
      · exact hv
  · rw [write_written] at hst'
    rw [write_held]
    split
    · next hkey =>
      split at hst'
      · next hut => exact ⟨_, by rw [hut]⟩
      · next hut =>
        obtain ⟨v, hv⟩ := h.written u st' hst'
        exact absurd (eq_of_free hfree (hkey ▸ hv)) hut
    · next hkey =>
      split at hst'
      · next hut =>
        rcases List.mem_append.1 hst' with hst' | hst'
        · exact hut ▸ h.written t st' hst'
        · exact absurd (congrArg key (List.mem_singleton.1 hst')) hkey
      · exact h.written u st' hst'

/-- A statement that can be executed is one on such a row. -/
theorem exec (h : s.Isolated key apply) (he : s.exec key apply t st = some s') :
    s'.Isolated key apply := by
  rcases exec_cases he with ⟨rfl, -⟩ | ⟨rfl, hfree, -⟩
  · exact h
  · exact h.write hfree

/-- When a transaction is over, the others keep their rows. -/
theorem close (h : s.Isolated key apply) {committed : κ → Option ρ}
    (hc : ∀ k u v, u ≠ t → s.held k = some (u, v) → committed k = s.committed k) :
    (s.close t committed).Isolated key apply := by
  refine ⟨fun k u v hk => ?_, fun u st hst => ?_⟩
  · obtain ⟨hk, hut⟩ := close_held.1 hk
    rw [close_written, if_neg hut, close_committed, hc k u v hut hk]
    exact h.held k u v hk
  · rw [close_written] at hst
    split at hst
    · cases hst
    · next hut =>
      obtain ⟨v, hv⟩ := h.written u st hst
      exact ⟨v, close_held.2 ⟨hv, hut⟩⟩

/-- A commit keeps the transactions apart. -/
theorem commit (h : s.Isolated key apply) (t : τ) : (s.commit t).Isolated key apply :=
  h.close fun k u v hut hk => by simp only [visible, hk, if_neg hut]

/-- So does a rollback. -/
theorem rollback (h : s.Isolated key apply) (t : τ) : (s.rollback t).Isolated key apply :=
  h.close fun _ _ _ _ _ => rfl

/-- A transaction that commits leaves what its statements make of the committed rows. -/
theorem commit_eq_replay (h : s.Isolated key apply) (t : τ) (k : κ) :
    (s.commit t).committed k = replay key apply (s.written t) k (s.committed k) :=
  h.visible_eq t k

end Isolated

end

end State

end RowLock
