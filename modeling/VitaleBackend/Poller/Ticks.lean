import Mathlib.Data.List.Chain
import VitaleBackend.Poller.Schedule
import VitaleBackend.Poller.Stamps

/-!
# Ticks

Cron starts a process at every full hour. When the due-checks and the stamps of each process happen
within the tolerance after its tick, the tolerance takes up every delay: the GP poller is due on
every tick and the satcat poller on every 24th, however the delays vary (`ticks_due`). The step is
about one poller that was stamped some ticks ago (`Stamped.tick`), whatever its interval.
-/

namespace VitaleBackend

open Process

/-! ## The schedule of one process -/

/-- Steps that are performed one after the other, each at a time for which `window` holds. -/
inductive Performs (window : Timestamp → Prop) :
    List Todo → Dues → Database → Dues → Database → Prop where
  | nil (due : Dues) (db : Database) : Performs window [] due db due db
  | cons {t : Todo} {ts : List Todo} {due due' : Dues} {db db' : Database} {now : Timestamp} :
      window now → Performs window ts (t.exec now due db).1 (t.exec now due db).2 due' db' →
      Performs window (t :: ts) due db due' db'

/-- The transactions of the steps go through, each at a time for which `window` holds. -/
def GoThrough (window : Timestamp → Prop) : List Todo → Dues → Session → Prop
  | [], _, _ => True
  | t :: ts, due, s => (t.isCall due = true → s.call.fault = .none ∧ window s.call.now) ∧
      match t.job due s with
      | (.ok due', s') => GoThrough window ts due' s'
      | _ => True

/-- When every call goes through, in the window, so do the steps. -/
theorem GoThrough.of_env {window : Timestamp → Prop} {ts : List Todo} {due : Dues} {s : Session}
    (h : ∀ i, (s.env i).fault = .none ∧ window (s.env i).now) : GoThrough window ts due s := by
  induction ts generalizing due s with
  | nil => trivial
  | cons t ts ih =>
    refine ⟨fun _ => h s.used, ?_⟩
    obtain ⟨s₁, hjob, -, henv, -⟩ := @Todo.job_run t due s fun _ => (h s.used).1
    rw [hjob]
    exact ih (henv ▸ h)

/-- Steps whose transactions go through are performed. -/
theorem GoThrough.performs {window : Timestamp → Prop} {time : Timestamp} (htime : window time)
    {ts : List Todo} {due : Dues} {s : Session} (h : GoThrough window ts due s) :
    ∃ due' s', perform ts due s = (.ok due', s') ∧ Performs window ts due s.db due' s'.db := by
  induction ts generalizing due s with
  | nil => exact ⟨due, s, rfl, .nil due s.db⟩
  | cons t ts ih =>
    obtain ⟨hcall, hrest⟩ := h
    obtain ⟨s₁, hjob, hdb, -, -⟩ := t.job_run fun hc => (hcall hc).1
    rw [hjob] at hrest
    obtain ⟨due', s', hperform, hperforms⟩ := ih hrest
    refine ⟨due', s', by rw [perform, Proc.bind_ok hjob, hperform], ?_⟩
    rw [hdb] at hperforms
    cases hc : t.isCall due with
    | true => exact .cons (hcall hc).2 hperforms
    | false =>
      -- a step without a transaction does nothing, at whatever time
      refine .cons htime ?_
      cases t with
      | check p => cases hc
      | stamp p =>
        rw [Todo.isCall] at hc
        simp only [Todo.exec, hc] at hperforms ⊢
        exact hperforms

/-- What the schedule does to one poller: it is found due by its `last_run_at` at some time of the
window, and stamped at another one if it is. -/
theorem Performs.mainSchedule {window : Timestamp → Prop} {db db' : Database} {due : Dues}
    (h : Performs window mainSchedule .none db due db') (p : Scheduled) :
    ∃ c g, window c ∧ window g ∧
      (due p = true ↔ ∀ t ∈ db.lastRun p.name, t + p.distance ≤ c) ∧
      db'.lastRun p.name = if due p then some g else db.lastRun p.name := by
  cases h with
  | @cons _ _ _ _ _ _ c₁ hc₁ h =>
  cases h with
  | @cons _ _ _ _ _ _ c₂ hc₂ h =>
  cases h with
  | @cons _ _ _ _ _ _ g₁ hg₁ h =>
  cases h with
  | @cons _ _ _ _ _ _ g₂ hg₂ h =>
  cases h
  cases p with
  | satcat =>
    refine ⟨c₁, g₁, hc₁, hg₁, ?_, ?_⟩
    · rw [← Scheduled.isDue_iff]
      rfl
    · simp only [Todo.exec_lastRun, Todo.stamped_eq_some, Todo.stamp.injEq, reduceCtorEq,
        false_and, true_and, if_false]
      rfl
  | gp =>
    refine ⟨c₂, g₂, hc₂, hg₂, ?_, ?_⟩
    · rw [← Scheduled.isDue_iff]
      rfl
    · simp only [Todo.exec_lastRun, Todo.stamped_eq_some, Todo.stamp.injEq, reduceCtorEq,
        false_and, true_and, if_false]
      rfl

namespace Invocation

/-- The first part of `main`. -/
def schedule (p : Invocation) : Outcome Exn Dues × Session :=
  perform mainSchedule .none (.start p.db p.env)

/-- The pollers that the process finds due. -/
def dues (p : Invocation) : Dues :=
  match p.schedule.1 with
  | .ok due => due
  | _ => .none

/-- Within the tolerance after the tick. -/
def Window (p : Invocation) (t : Timestamp) : Prop := p.start ≤ t ∧ t ≤ p.start + Sql.dueTolerance

/-- The due-checks and the stamps go through, within the tolerance after the tick. -/
def Prompt (p : Invocation) : Prop := GoThrough p.Window mainSchedule .none (.start p.db p.env)

/-- The schedule of a prompt process is performed within the tolerance after its tick. -/
theorem Prompt.performs {p : Invocation} (h : p.Prompt) :
    ∃ s, p.schedule = (.ok p.dues, s) ∧ Performs p.Window mainSchedule .none p.db p.dues s.db := by
  obtain ⟨due, s, hperform, hperforms⟩ := GoThrough.performs
    (⟨le_refl _, Int.le_add_of_nonneg_right (by decide)⟩ : p.Window p.start) h
  have hdue : p.dues = due := by rw [dues, schedule, hperform]
  rw [hdue]
  exact ⟨s, hperform, hperforms⟩

/-- Of each poller a prompt process says at some time `c` whether it is due, and stamps it at some
time `g` if it is. -/
theorem Prompt.poller {p : Invocation} (h : p.Prompt) (w : Scheduled) :
    ∃ c g, p.Window c ∧ p.Window g ∧
      (p.dues w = true ↔ ∀ t ∈ p.db.lastRun w.name, t + w.distance ≤ c) ∧
      p.schedule.2.db.lastRun w.name = if p.dues w then some g else p.db.lastRun w.name := by
  obtain ⟨s, hschedule, hperforms⟩ := h.performs
  rw [hschedule]
  exact hperforms.mainSchedule w

/-- What the process does after its stamps leaves them alone. -/
theorem Prompt.finish_lastRun (X : Externals) {p : Invocation} (h : p.Prompt) (name : String) :
    (p.finish X).db.lastRun name = p.schedule.2.db.lastRun name := by
  obtain ⟨s, hschedule, -⟩ := h.performs
  have hgp : s.db.lastRun "gp" ≠ none := by
    obtain ⟨c, g, -, -, hdue, hlast⟩ := h.poller .gp
    rw [hschedule] at hlast
    intro hnone
    rw [show "gp" = Scheduled.gp.name from rfl, hlast] at hnone
    split at hnone
    · cases hnone
    · next hnot =>
      rw [hdue, hnone] at hnot
      exact hnot nofun
  have hrest : Proc.Within (OnRun KeepsStamps) (do
      whenDue (p.dues .satcat) (satcatPoller X).run
      whenDue (p.dues .gp) (runGp X)) :=
    (whenDue_within (satcat_run_keepsStamps X) _).bind fun _ =>
      whenDue_within (runGp_keepsStamps X) _
  have hrun : (runPollers X (.start p.db p.env)).2.db.lastRun name = s.db.lastRun name := by
    rw [runPollers_schedule, Proc.bind_ok hschedule]
    exact (hrest s).db hgp name
  rw [hschedule, finish, main, Proc.attempt_run, ← hrun]
  rcases runPollers X (.start p.db p.env) with ⟨_ | _ | _, s'⟩ <;> rfl

end Invocation

/-! ## Ticks in a row -/

/-- A process that cron starts at the next full hour, and that finds the stamps as the one before
left them, whether or not that one is over. -/
structure NextTick (p q : Invocation) : Prop where
  hourly : q.start = p.start + kGpInterval
  stamps : ∀ w : Scheduled, q.db.lastRun w.name = p.schedule.2.db.lastRun w.name

/-- A process that starts when the one before is over finds the stamps so. -/
theorem NextTick.of_finish {X : Externals} {p q : Invocation} (hp : p.Prompt)
    (hourly : q.start = p.start + kGpInterval)
    (hstate : q.db.pollerState = (p.finish X).db.pollerState) : NextTick p q :=
  ⟨hourly, fun w => (Database.lastRun_congr hstate w.name).trans (hp.finish_lastRun X w.name)⟩

/-- The interval of a poller, in hours. -/
def Scheduled.hours : Scheduled → ℕ
  | satcat => 24
  | gp => 1

/-- The intervals are whole hours. -/
theorem Scheduled.interval_eq (w : Scheduled) : w.interval = w.hours * kGpInterval := by
  cases w <;> rfl

/-- A stamp that was taken within the tolerance after a tick, some ticks before this one. -/
def TicksAgo (n : ℕ) (start : Timestamp) (stamp : Option Timestamp) : Prop :=
  ∃ t, stamp = some t ∧ start - n * kGpInterval ≤ t ∧
    t ≤ start - n * kGpInterval + Sql.dueTolerance

/-- At the next tick a stamp is one tick older. -/
theorem TicksAgo.next {n : ℕ} {start : Timestamp} {stamp : Option Timestamp}
    (h : TicksAgo n start stamp) : TicksAgo (n + 1) (start + kGpInterval) stamp := by
  obtain ⟨t, ht, hlo, hhi⟩ := h
  refine ⟨t, ht, ?_, ?_⟩ <;> push_cast <;> linarith

/-- What the `k`-th process finds: no stamp at all, or that of the last tick that was due. -/
def Phase (w : Scheduled) (k : ℕ) (start : Timestamp) (stamp : Option Timestamp) : Prop :=
  match k with
  | 0 => stamp = none
  | k + 1 => TicksAgo (k % w.hours + 1) start stamp

/-- A poller that was stamped `n` ticks ago is due when its interval is `n` hours, and not
before. -/
theorem TicksAgo.due_iff {w : Scheduled} {n : ℕ} {p : Invocation} {c : Timestamp}
    {stamp : Option Timestamp} (h : TicksAgo n p.start stamp) (hn : n ≤ w.hours)
    (hc : p.Window c) : (∀ t ∈ stamp, t + w.distance ≤ c) ↔ n = w.hours := by
  obtain ⟨t, rfl, hlo, hhi⟩ := h
  have hdistance : w.distance = w.hours * kGpInterval - Sql.dueTolerance := by
    rw [Scheduled.distance, Scheduled.interval_eq]
  refine ⟨fun hdue => ?_, ?_⟩
  · by_contra hne
    have hle : (n : Int) + 1 ≤ w.hours := by omega
    have hmul : ((n : Int) + 1) * kGpInterval ≤ w.hours * kGpInterval :=
      mul_le_mul_of_nonneg_right hle (by decide)
    have hdue := hdue t rfl
    have htolerance : Sql.dueTolerance + Sql.dueTolerance < kGpInterval := by decide
    have hlate := hc.2
    linarith
  · rintro rfl t' ⟨⟩
    have hearly := hc.1
    linarith

/-- The step: the decision of one process about one poller, and the stamp it leaves. -/
theorem Phase.tick {w : Scheduled} {k : ℕ} {p : Invocation} (hp : p.Prompt)
    (h : Phase w k p.start (p.db.lastRun w.name)) :
    (p.dues w = true ↔ w.hours ∣ k) ∧
      TicksAgo (k % w.hours) p.start (p.schedule.2.db.lastRun w.name) := by
  obtain ⟨c, g, hc, hg, hdue, hlast⟩ := hp.poller w
  have hpos : 0 < w.hours := by cases w <;> decide
  have hstamped : TicksAgo 0 p.start (some g) := by
    refine ⟨g, rfl, ?_, ?_⟩
    · simpa using hg.1
    · simpa using hg.2
  rw [hlast]
  cases k with
  | zero =>
    have hyes : p.dues w = true := by
      rw [hdue, show p.db.lastRun w.name = none from h]
      exact nofun
    rw [if_pos hyes, Nat.zero_mod]
    exact ⟨iff_of_true hyes (dvd_zero _), hstamped⟩
  | succ k =>
    have hlt := Nat.mod_lt k hpos
    rw [h.due_iff hlt hc] at hdue
    have hmod : (k + 1) % w.hours = if k % w.hours + 1 = w.hours then 0 else k % w.hours + 1 := by
      split
      · next heq => cases w <;> simp only [Scheduled.hours] at heq ⊢ <;> omega
      · next hne => cases w <;> simp only [Scheduled.hours] at hne ⊢ <;> omega
    rw [hmod]
    refine ⟨?_, ?_⟩
    · rw [hdue, Nat.dvd_iff_mod_eq_zero, hmod]
      split
      · exact iff_of_true ‹_› rfl
      · exact iff_of_false ‹_› (Nat.succ_ne_zero _)
    · by_cases heq : k % w.hours + 1 = w.hours
      · rw [if_pos (hdue.2 heq), if_pos heq]
        exact hstamped
      · rw [if_neg (fun hyes => heq (hdue.1 hyes)), if_neg heq]
        exact h

/-- The stamp that a process leaves, an hour later. -/
theorem NextTick.phase {w : Scheduled} {k : ℕ} {p q : Invocation} (h : NextTick p q)
    (hago : TicksAgo (k % w.hours) p.start (p.schedule.2.db.lastRun w.name)) :
    Phase w (k + 1) q.start (q.db.lastRun w.name) := by
  rw [h.hourly, h.stamps w]
  exact hago.next

/-- The run: what every process of a sequence decides about a poller, and the stamp it leaves. -/
theorem Phase.run {w : Scheduled} {ps : List Invocation} (hprompt : ∀ p ∈ ps, p.Prompt)
    (hticks : ps.IsChain NextTick) {n : ℕ}
    (hfirst : ∀ p ∈ ps.head?, Phase w n p.start (p.db.lastRun w.name)) {k : ℕ}
    {p : Invocation} (hp : ps[k]? = some p) : (p.dues w = true ↔ w.hours ∣ n + k) ∧
      TicksAgo ((n + k) % w.hours) p.start (p.schedule.2.db.lastRun w.name) := by
  induction ps generalizing n k with
  | nil => cases hp
  | cons q ps ih =>
    have htick := (hfirst q rfl).tick (hprompt q (.head _))
    cases k with
    | zero =>
      cases hp
      exact htick
    | succ k =>
      have hnext := ih (fun p hp => hprompt p (.tail _ hp)) hticks.tail (n := n + 1)
        (fun r hr => ?_) hp
      · rwa [show n + (k + 1) = n + 1 + k by omega]
      · cases ps with
        | nil => cases hr
        | cons r' ps =>
          cases hr
          exact (List.isChain_cons_cons.1 hticks).1.phase htick.2

/-- In every sequence of hourly ticks that starts with an empty `poller_state`, with the due-checks
and the stamps of each process within the tolerance after its tick, the GP poller is due on every
tick and the satcat poller on every 24th; and the stamps stay within the tolerance after the tick
they belong to. -/
theorem ticks_due {ps : List Invocation} (hprompt : ∀ p ∈ ps, p.Prompt)
    (hticks : ps.IsChain NextTick)
    (hempty : ∀ p ∈ ps.head?, ∀ w : Scheduled, p.db.lastRun w.name = none) {k : ℕ}
    {p : Invocation} (hp : ps[k]? = some p) :
    p.dues .gp = true ∧ (p.dues .satcat = true ↔ 24 ∣ k) ∧
      ∀ w : Scheduled, TicksAgo (k % w.hours) p.start (p.schedule.2.db.lastRun w.name) := by
  have hrun : ∀ w : Scheduled, (p.dues w = true ↔ w.hours ∣ 0 + k) ∧
      TicksAgo ((0 + k) % w.hours) p.start (p.schedule.2.db.lastRun w.name) :=
    fun w => Phase.run hprompt hticks (n := 0) (fun q hq => hempty q hq w) hp
  simp only [Nat.zero_add] at hrun
  exact ⟨(hrun .gp).1.2 (one_dvd k), (hrun .satcat).1, fun w => (hrun w).2⟩

namespace TicksFixture

open RotationFixture (externals)

/-- A process whose calls all happen some time after its tick. -/
def process (start delay : Timestamp) (db : Database) : Invocation :=
  ⟨start, db, calmEnv (start + delay) "[]"⟩

/-- The first process is five minutes late, and the second one on time. -/
def first : Invocation := process 0 Sql.dueTolerance .empty

/-- The process of the next hour, on the tables that the first one left. -/
def second : Invocation := process kGpInterval 0 (first.finish externals).db

/-- A process with such a delay is prompt. -/
theorem process_prompt {start delay : Timestamp} {db : Database} (h : 0 ≤ delay)
    (h' : delay ≤ Sql.dueTolerance) : (process start delay db).Prompt :=
  .of_env fun _ => ⟨rfl, Int.le_add_of_nonneg_right h, Int.add_le_add_left h' start⟩

/-- Both processes are prompt, the late one by the whole tolerance. -/
theorem prompt : ∀ p ∈ [first, second], p.Prompt := by
  refine List.forall_mem_cons.2 ⟨process_prompt (by decide) (le_refl _),
    List.forall_mem_singleton.2 (process_prompt (le_refl _) (by decide))⟩

/-- The second process is the next tick of the first. -/
theorem ticks : [first, second].IsChain NextTick :=
  .cons_cons (.of_finish (X := externals) (prompt first (.head _)) rfl rfl) (.singleton _)

end TicksFixture

open TicksFixture in
/-- The late stamp of the first process does not keep the second from being due. -/
theorem ticks_due_late : second.dues .gp = true ∧ (second.dues .satcat = true ↔ 24 ∣ 1) ∧
    ∀ w : Scheduled, TicksAgo (1 % w.hours) second.start (second.schedule.2.db.lastRun w.name) :=
  ticks_due prompt ticks (by rintro _ ⟨⟩ w; cases w <;> rfl) (k := 1) rfl

end VitaleBackend
