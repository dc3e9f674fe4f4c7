import VitaleBackend.Poller.Rotation
import VitaleBackend.Poller.Schedule

/-!
# The GP part of an invocation

A cron invocation does its due-checks, its stamps and the satcat run first, and what is left is the
GP part (`Session.gpStart`), whose two selects begin a GP run (`Session.gpRun`). So the tables of a
GP request are those that the invocation has by then, and whatever is said of its commits or of its
requests is said of the part before and of that run (`main_cases`, `gpRun_cases`).
-/

namespace VitaleBackend

open Process

/-- `main` up to its GP part: whether the GP poller was found due, when the due-checks, the stamps
and the satcat run did not throw. -/
def beforeGp (X : Externals) : Job Bool := do
  let due ← perform mainSchedule .none
  whenDue (due .satcat) (satcatPoller X).run
  return due .gp

/-- `main` is what comes before the GP part and then the GP part, when it is due. -/
theorem runPollers_beforeGp (X : Externals) :
    runPollers X = beforeGp X >>= fun due => whenDue due (runGp X) := by
  simp only [runPollers_schedule, beforeGp, bind_assoc, pure_bind]

/-- What comes before the GP part stays within a relation of which its schedule and the satcat run
are. -/
theorem beforeGp_within {X : Externals} {R S T : Session → Session → Prop}
    (hschedule : Proc.Within R (perform mainSchedule .none))
    (hsatcat : ∀ due, Proc.Within S (whenDue due (satcatPoller X).run))
    (hboth : ∀ s t u, R s t → S t u → T s u) (hfirst : ∀ s t, R s t → T s t) :
    Proc.Within T (beforeGp X) := by
  refine hschedule.bind_of (S := S) (fun due => ?_) hboth hfirst
  intro s
  have hrun := hsatcat (due .satcat) s
  rw [Proc.bind_run]
  rcases hs : whenDue (due .satcat) (satcatPoller X).run s with ⟨_ | e | _, s'⟩ <;>
    rw [hs] at hrun <;> exact hrun

/-- The handler of `main` only writes an error line, so that the tables and the requests of an
invocation are those of its body. -/
theorem main_runPollers (X : Externals) (s : Session) :
    (main X s).2.db = (runPollers X s).2.db ∧ (main X s).2.sent = (runPollers X s).2.sent := by
  unfold main
  rw [Proc.attempt_run]
  rcases runPollers X s with ⟨_ | _ | _, s'⟩ <;> exact ⟨rfl, rfl⟩

namespace Session

/-- The process when all but its GP part is done, if it comes to a GP part. -/
def gpStart (X : Externals) (s : Session) : Option Session :=
  match beforeGp X s with
  | (.ok true, t) => some t
  | _ => none

end Session

/-- An invocation ends with its GP part or without one. The part before it stays within whatever
`beforeGp` stays within. -/
theorem main_cases {X : Externals} {R : Session → Session → Prop}
    (h : Proc.Within R (beforeGp X)) (s : Session) :
    (∃ t, s.gpStart X = some t ∧ R s t ∧ (main X s).2.db = (runGp X t).2.db ∧
      (main X s).2.sent = (runGp X t).2.sent) ∨
    (s.gpStart X = none ∧ ∃ t, R s t ∧ (main X s).2.db = t.db ∧ (main X s).2.sent = t.sent) := by
  obtain ⟨hdb, hsent⟩ := main_runPollers X s
  have hbefore := h s
  rw [hdb, hsent, runPollers_beforeGp, Proc.bind_run, Session.gpStart]
  rcases hs : beforeGp X s with ⟨due | e | _, t⟩ <;> rw [hs] at hbefore
  · cases due with
    | true => exact .inl ⟨t, rfl, hbefore, rfl, rfl⟩
    | false => exact .inr ⟨rfl, t, hbefore, rfl, rfl⟩
  · exact .inr ⟨rfl, t, hbefore, rfl, rfl⟩
  · exact .inr ⟨rfl, t, hbefore, rfl, rfl⟩

/-! ## The run that the GP part makes -/

/-- The run that the GP part of `main` makes, when both of its selects go through. -/
def GpRun.begun (s : Session) : Option GpRun :=
  if s.call.fault = .none ∧ s.next.call.fault = .none then some ⟨s.db, s.db, s.next.next⟩
  else none

/-- A run that is begun selects from the tables that the GP part finds, starts with them, and is
all that the GP part does. -/
theorem runGp_begun {X : Externals} {s : Session} {r : GpRun} (h : GpRun.begun s = some r) :
    r.atHot = s.db ∧ r.atRotation = s.db ∧ r.start.db = s.db ∧ (runGp X s).2 = r.finish X := by
  unfold GpRun.begun at h
  split at h
  · next hfaults =>
    cases h
    refine ⟨rfl, rfl, rfl, ?_⟩
    unfold runGp DbWriter.topGpHotTargets DbWriter.nextGpRotationBatch
    rw [Proc.bind_ok (query_run _ hfaults.1), Proc.bind_ok (query_run _ hfaults.2)]
    rfl
  · cases h

/-- What comes after a query that does not go through is left out. -/
theorem query_bind_of_fault (f : Call → Database → α) (g : α → Job β) {s : Session}
    (hf : s.call.fault ≠ .none) : ((query f >>= g) s).2 = s.next := by
  unfold query
  rw [Proc.bind_run]
  rcases transaction_cases (fun call db => .ok (f call db, db)) s with
    ⟨hnone, -⟩ | ⟨-, e, h⟩ | ⟨-, h⟩
  · exact absurd hnone hf
  · rw [h]
  · rw [h]

/-- Without its selects the GP part writes nothing and sends nothing. -/
theorem runGp_not_begun {X : Externals} {s : Session} (h : GpRun.begun s = none) :
    (runGp X s).2.db = s.db ∧ (runGp X s).2.sent = s.sent := by
  have hfaults : ¬ (s.call.fault = .none ∧ s.next.call.fault = .none) := by
    intro hfaults
    rw [GpRun.begun, if_pos hfaults] at h
    cases h
  unfold runGp DbWriter.topGpHotTargets DbWriter.nextGpRotationBatch
  by_cases hf : s.call.fault = .none
  · rw [Proc.bind_ok (query_run _ hf), query_bind_of_fault _ _ fun hf' => hfaults ⟨hf, hf'⟩]
    exact ⟨rfl, rfl⟩
  · rw [query_bind_of_fault _ _ hf]
    exact ⟨rfl, rfl⟩

/-- The GP run of the invocation, if it comes to one. -/
def Session.gpRun (X : Externals) (s : Session) : Option GpRun :=
  (s.gpStart X).bind GpRun.begun

/-- How a GP run lies in its invocation: it selects from the tables that it starts with, which the
part before it left, and what it leaves is what the invocation leaves. -/
structure Session.Ends (X : Externals) (Q : Database → Database → Prop) (s : Session)
    (r : GpRun) : Prop where
  before : Q s.db r.start.db
  atHot : r.atHot = r.start.db
  atRotation : r.atRotation = r.start.db
  finish : (main X s).2.db = (r.finish X).db

/-- An invocation ends with its GP run, or commits nothing but what is committed before one. `Q` is
whatever the stamps and the batches of the satcat poller respect. -/
theorem gpRun_cases {X : Externals} {Q : Database → Database → Prop} [Std.Refl Q]
    [IsTrans Database Q] (h : Proc.Within (OnRun Q) (beforeGp X)) (s : Session) :
    (∃ r, s.gpRun X = some r ∧ s.Ends X Q r) ∨ (s.gpRun X = none ∧ Q s.db (main X s).2.db) := by
  unfold Session.gpRun
  rcases main_cases h s with ⟨t, ht, hbefore, hdb, -⟩ | ⟨ht, t, hbefore, hdb, -⟩
  · rw [ht, Option.bind_some]
    cases hbegun : GpRun.begun t with
    | none => exact .inr ⟨rfl, by rw [hdb, (runGp_not_begun hbegun).1]; exact hbefore.db⟩
    | some r =>
      obtain ⟨hhot, hrotation, hstart, hrun⟩ := runGp_begun (X := X) hbegun
      refine .inl ⟨r, rfl, hstart ▸ hbefore.db, hhot.trans hstart.symm,
        hrotation.trans hstart.symm, hrun ▸ hdb⟩
  · exact .inr ⟨by rw [ht]; rfl, hdb ▸ hbefore.db⟩

/-! ## What comes before the GP part -/

/-- The schedule respects what the stamps respect. -/
theorem perform_onDb {Q : Database → Database → Prop} [Std.Refl Q] [IsTrans Database Q]
    (hmark : ∀ name now db, Q db (Sql.markPollerRun name now db)) (ts : List Todo) (due : Dues) :
    Proc.Within (OnDb Q) (perform ts due) := by
  induction ts generalizing due with
  | nil => exact .pure due
  | cons t ts ih =>
    refine Proc.Within.bind ?_ fun due => ih due
    cases t with
    | check w => exact (query_onDb _).bind fun _ => .pure _
    | stamp w => exact (whenDue_within (markPollerRun_onDb hmark w.name) _).bind fun _ => .pure _

/-- The part before the GP part respects what the stamps and the batches of the satcat poller
respect. -/
theorem beforeGp_onRun {X : Externals} {Q : Database → Database → Prop} [Std.Refl Q]
    [IsTrans Database Q] (hmark : ∀ name now db, Q db (Sql.markPollerRun name now db))
    (hsatcat : ∀ body, Proc.Within (OnDb Q) (SatcatPoller.processResponse X body)) :
    Proc.Within (OnRun Q) (beforeGp X) :=
  beforeGp_within (onRun (perform_onDb hmark mainSchedule .none))
    (fun due => whenDue_within (run_onRun (p := satcatPoller X) hsatcat) due)
    (fun _ _ _ => trans_of (OnRun Q)) fun _ _ => id

end VitaleBackend
