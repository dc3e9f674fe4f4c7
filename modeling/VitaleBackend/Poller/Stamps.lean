import Mathlib.Tactic.Linarith
import VitaleBackend.Poller.Upsert

/-!
# Due-checks and stamps

The first part of `main` reads and writes nothing but the `last_run_at` of two pollers.
`mainSchedule` lists its four steps, `runPollers_schedule` says that `main` performs them and then
runs what is due, and `Todo.exec` is one of them as a transaction. Nothing after the stamps touches
them (`KeepsStamps`).
-/

namespace VitaleBackend

open Process Relational

/-! ## `last_run_at` -/

/-- The `last_run_at` of a poller. -/
def Database.lastRun (pollerName : String) (db : Database) : Option Timestamp :=
  (db.pollerState.find? pollerName).map (·.lastRunAt)

/-- The stamps are in `poller_state` and nowhere else. -/
theorem Database.lastRun_congr {db db' : Database} (h : db'.pollerState = db.pollerState)
    (pollerName : String) : db'.lastRun pollerName = db.lastRun pollerName := by
  rw [lastRun, lastRun, h]

namespace Sql

/-- A poller is due when its last run is its interval ago, but for the tolerance. -/
theorem isPollerDue_iff {pollerName : String} {interval now : Timestamp} {db : Database} :
    isPollerDue pollerName interval now db = true ↔
      ∀ t ∈ db.lastRun pollerName, t ≤ now - interval + dueTolerance := by
  rw [isPollerDue, Database.lastRun]
  cases db.pollerState.find? pollerName with
  | none => simp
  | some row => simp

/-- A stamp is that of its poller, and leaves those of the others. -/
theorem lastRun_markPollerRun (pollerName : String) (now : Timestamp) (db : Database)
    (name : String) : (markPollerRun pollerName now db).lastRun name =
      if name = pollerName then some now else db.lastRun name := by
  rw [markPollerRun, Database.lastRun, Database.withPollerState, Table.find?_upsert]
  split
  · next h =>
    rw [h]
    cases db.pollerState.find? pollerName <;> rfl
  · rfl

end Sql

/-- A write that leaves the stamps alone once the GP poller has one: the cursor has a row to go
to. -/
def KeepsStamps (db db' : Database) : Prop :=
  db.lastRun "gp" ≠ none → ∀ name, db'.lastRun name = db.lastRun name

/-- Stamps that are left alone are kept. -/
instance : Std.Refl KeepsStamps := ⟨fun _ _ _ => rfl⟩

/-- What two jobs in a row keep is kept. -/
instance : IsTrans Database KeepsStamps :=
  ⟨fun _ _ _ h h' hgp name => (h' (h hgp "gp" ▸ hgp) name).trans (h hgp name)⟩

/-- Work on other tables keeps the stamps. -/
theorem keepsStamps_of_pollerState {db db' : Database} (h : db'.pollerState = db.pollerState) :
    KeepsStamps db db' :=
  fun _ name => Database.lastRun_congr h name

/-- A move of the cursor keeps the stamps: the row of the GP poller is there by then, and the update
names the cursor only. -/
theorem keepsStamps_advance {c : Int} {now : Timestamp} {db db' : Database}
    (h : Sql.advanceGpRotationCursor c now db = .ok db') : KeepsStamps db db' := by
  obtain ⟨-, rfl⟩ := Sql.advanceGpRotationCursor_ok.1 h
  intro hgp name
  rw [Database.lastRun, Database.withPollerState, Table.find?_upsert, Database.lastRun]
  split
  · next hname =>
    rw [hname]
    cases hrow : db.pollerState.find? "gp" with
    | none =>
      rw [Database.lastRun, hrow] at hgp
      exact absurd rfl hgp
    | some row => rfl
  · rfl

/-- A GP run leaves the stamps alone. -/
theorem runGp_keepsStamps (X : Externals) : Proc.Within (OnRun KeepsStamps) (runGp X) :=
  runGp_onRun {
    snapshot := fun call snap db id db' h =>
      keepsStamps_of_pollerState ((gpWrites_frame X).snapshot call snap db id db' h).pollerState
    event := fun call n e p q db db' hc h =>
      keepsStamps_of_pollerState ((gpWrites_frame X).event call n e p q db db' hc h).pollerState
    cursor := fun _ _ _ _ => keepsStamps_advance }

/-- A satcat run leaves the stamps alone. -/
theorem satcat_run_keepsStamps (X : Externals) :
    Proc.Within (OnRun KeepsStamps) (satcatPoller X).run :=
  run_onRun (p := satcatPoller X) (satcat_processResponse_onDb X fun _ _ _ _ h =>
    keepsStamps_of_pollerState h.pollerState)

/-! ## The steps before the pollers -/

/-- The pollers that `main` schedules. -/
inductive Scheduled where
  | satcat | gp
  deriving DecidableEq

/-- There are two pollers. -/
theorem Scheduled.forall_iff {P : Scheduled → Prop} : (∀ p, P p) ↔ P .satcat ∧ P .gp :=
  ⟨fun h => ⟨h _, h _⟩, fun h p => by cases p <;> [exact h.1; exact h.2]⟩

/-- Decided for both of them. -/
instance {P : Scheduled → Prop} [DecidablePred P] : Decidable (∀ p, P p) :=
  decidable_of_iff' _ Scheduled.forall_iff

namespace Scheduled

/-- The name of its row in `poller_state`. -/
def name : Scheduled → String
  | satcat => "satcat"
  | gp => "gp"

/-- Its interval, which `main` hands to the due-check. -/
def interval : Scheduled → Timestamp
  | satcat => kSatcatInterval
  | gp => kGpInterval

/-- What a due-check asks to have passed since the last run. -/
def distance (p : Scheduled) : Timestamp := p.interval - Sql.dueTolerance

/-- The due-check of a poller, with the distance. -/
theorem isDue_iff {p : Scheduled} {now : Timestamp} {db : Database} :
    Sql.isPollerDue p.name p.interval now db = true ↔
      ∀ t ∈ db.lastRun p.name, t + p.distance ≤ now := by
  rw [Sql.isPollerDue_iff]
  refine forall₂_congr fun t _ => ?_
  rw [distance]
  refine ⟨fun h => ?_, fun h => ?_⟩ <;> linarith

/-- The tolerance is shorter than either interval. -/
theorem distance_pos (p : Scheduled) : 0 < p.distance := by cases p <;> decide

/-- The names tell the pollers apart. -/
theorem name_injective {p q : Scheduled} (h : p.name = q.name) : p = q := by
  cases p <;> cases q <;> first | rfl | exact absurd h (by decide)

end Scheduled

/-- A due-check, or a stamp of a poller that was found due. -/
inductive Todo where
  | check (p : Scheduled)
  | stamp (p : Scheduled)
  deriving DecidableEq

/-- What `main` does before its pollers. -/
def mainSchedule : List Todo := [.check .satcat, .check .gp, .stamp .satcat, .stamp .gp]

/-- Which pollers were found due so far. -/
abbrev Dues := Scheduled → Bool

/-- No poller was found due. -/
def Dues.none : Dues := fun _ => false

/-- A due-check has come back for a poller. -/
def Dues.set (due : Dues) (p : Scheduled) (b : Bool) : Dues := fun q => if q = p then b else due q

/-- What a due-check found is known of its poller. -/
@[simp] theorem Dues.set_self (due : Dues) (p : Scheduled) (b : Bool) : due.set p b p = b :=
  if_pos rfl

/-- What was known of the other poller stays known. -/
theorem Dues.set_ne (due : Dues) {p q : Scheduled} (b : Bool) (h : q ≠ p) :
    due.set p b q = due q :=
  if_neg h

namespace Todo

/-- The job of a step: the due-check remembers what it finds, and the stamp asks for it. -/
def job : Todo → Dues → Job Dues
  | check p, due => do return due.set p (← DbWriter.isPollerDue p.name p.interval)
  | stamp p, due => do
    whenDue (due p) (DbWriter.markPollerRun p.name)
    return due

/-- Whether the step is a transaction: the stamp of a poller that is not due is left out. -/
def isCall : Todo → Dues → Bool
  | check _, _ => true
  | stamp p, due => due p

/-- What the step does when its transaction goes through. -/
def exec (now : Timestamp) : Todo → Dues → Database → Dues × Database
  | check p, due, db => (due.set p (Sql.isPollerDue p.name p.interval now db), db)
  | stamp p, due, db => (due, if due p then Sql.markPollerRun p.name now db else db)

/-- The poller that the step stamps. -/
def stamped (due : Dues) : Todo → Option Scheduled
  | check _ => none
  | stamp p => if due p then some p else none

/-- A step moves the `last_run_at` of the poller it stamps and no other. -/
theorem exec_lastRun (t : Todo) (now : Timestamp) (due : Dues) (db : Database) (p : Scheduled) :
    (t.exec now due db).2.lastRun p.name =
      if t.stamped due = some p then some now else db.lastRun p.name := by
  cases t with
  | check q => simp [exec, stamped]
  | stamp q =>
    rw [exec, stamped]
    cases hq : due q with
    | false => simp
    | true =>
      simp only [if_true, Sql.lastRun_markPollerRun, Option.some.injEq]
      exact if_congr ⟨fun h => (Scheduled.name_injective h).symm, fun h => h ▸ rfl⟩ rfl rfl

/-- A poller is found due by its own due-check. -/
theorem exec_due {t : Todo} {now : Timestamp} {due : Dues} {db : Database} {p : Scheduled}
    (h : (t.exec now due db).1 p = true) :
    due p = true ∨ Sql.isPollerDue p.name p.interval now db = true := by
  cases t with
  | check q =>
    rcases eq_or_ne p q with rfl | hpq
    · simp only [exec, Dues.set_self] at h
      exact .inr h
    · simp only [exec, Dues.set_ne _ _ hpq] at h
      exact .inl h
  | stamp q => exact .inl h

/-- The only step that stamps a poller is its stamp, and only when it was found due. -/
theorem stamped_eq_some {t : Todo} {due : Dues} {p : Scheduled} :
    t.stamped due = some p ↔ t = .stamp p ∧ due p = true := by
  cases t with
  | check q => simp [stamped]
  | stamp q =>
    rw [stamped]
    split
    · next hq =>
      refine ⟨?_, ?_⟩
      · rintro ⟨⟩
        exact ⟨rfl, hq⟩
      · rintro ⟨⟨⟩, -⟩
        rfl
    · next hq =>
      refine ⟨nofun, ?_⟩
      rintro ⟨⟨⟩, hp⟩
      exact absurd hp hq

/-- A step of a process is that transaction. -/
theorem job_run {t : Todo} {due : Dues} {s : Session}
    (hf : t.isCall due = true → s.call.fault = .none) :
    ∃ s', t.job due s = (.ok (t.exec s.call.now due s.db).1, s') ∧
      s'.db = (t.exec s.call.now due s.db).2 ∧ s'.env = s.env ∧
      s'.used = s.used + (t.isCall due).toNat := by
  cases t with
  | check p =>
    refine ⟨s.next, ?_, rfl, rfl, rfl⟩
    rw [job, DbWriter.isPollerDue, Proc.bind_ok (query_run _ (hf rfl))]
    rfl
  | stamp p =>
    rw [isCall] at hf
    rw [job, exec, isCall]
    cases hp : due p with
    | false => exact ⟨s, rfl, rfl, rfl, rfl⟩
    | true =>
      refine ⟨{ s.next with db := Sql.markPollerRun p.name s.call.now s.db }, ?_, rfl, rfl, rfl⟩
      rw [whenDue, if_pos rfl, DbWriter.markPollerRun, Proc.bind_ok (transaction_ok (hf hp) rfl)]
      rfl

end Todo

/-- Some steps, one after the other. -/
def perform : List Todo → Dues → Job Dues
  | [], due => pure due
  | t :: ts, due => do perform ts (← t.job due)

/-- `main` performs its schedule, and then runs the pollers that were found due. -/
theorem runPollers_schedule (X : Externals) : runPollers X = (do
    let due ← perform mainSchedule .none
    whenDue (due .satcat) (satcatPoller X).run
    whenDue (due .gp) (runGp X)) := by
  simp only [runPollers, perform, mainSchedule, Todo.job, bind_assoc, pure_bind]
  rfl

end VitaleBackend
