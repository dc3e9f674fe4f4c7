import Mathlib.Data.List.Pairwise
import Mathlib.Logic.Function.Basic
import VitaleBackend.Poller.Stamps

/-!
# Processes that overlap

Cron starts a process every hour, whether or not the one before is over, and an operator may start
another one. Each of them takes its four steps (`mainSchedule`) in turn, and the transactions of
different processes come in any order (`World.run`). The due-check and the stamp of a process are
two transactions, so what the check saw may be over when the stamp is taken: the stamps of a poller
keep their distance if and only if the poller is still due whenever it is stamped
(`stamps_spaced_iff`).
-/

namespace VitaleBackend

namespace Overlap

/-- Where a process is in its schedule. -/
structure Runner where
  todo : List Todo := mainSchedule
  due : Dues := .none

/-! ## Interleavings -/

/-- The processes at work on one database, with the time of its clock and the stamps of each poller,
the last one first. -/
structure World (ι : Type) where
  clock : Timestamp
  db : Database
  processes : ι → Runner
  stamps : Scheduled → List Timestamp

/-- A process takes its next step, or ends early; or other work changes the tables. -/
inductive Move (ι : Type) where
  | step (i : ι) (now : Timestamp)
  | stop (i : ι)
  | work (db : Database)

namespace World

variable {ι : Type}

/-- Before any process has taken a step. -/
def start (clock : Timestamp) (db : Database) : World ι := ⟨clock, db, fun _ => {}, fun _ => []⟩

/-- The poller that the next step of a process stamps. -/
def stamping (w : World ι) (i : ι) : Option Scheduled :=
  match (w.processes i).todo with
  | [] => none
  | t :: _ => t.stamped (w.processes i).due

/-- What the next step of a process stamps. -/
theorem stamping_eq {w : World ι} {i : ι} {t : Todo} {ts : List Todo}
    (h : (w.processes i).todo = t :: ts) : w.stamping i = t.stamped (w.processes i).due := by
  rw [stamping, h]

/-- A process that is over stamps nothing. -/
theorem stamping_nil {w : World ι} {i : ι} (h : (w.processes i).todo = []) :
    w.stamping i = none := by
  rw [stamping, h]

/-- What other work leaves alone: the stamps. The clock does not go back. -/
def Valid (w : World ι) : Move ι → Prop
  | .step _ now => w.clock ≤ now
  | .stop _ => True
  | .work db => ∀ p : Scheduled, db.lastRun p.name = w.db.lastRun p.name

/-- A poller is still due when it is stamped. -/
def StillDue (w : World ι) : Move ι → Prop
  | .step i now => ∀ p ∈ w.stamping i, Sql.isPollerDue p.name p.interval now w.db = true
  | .stop _ => True
  | .work _ => True

/-- Decided by comparing times or stamps. The cases are the moves. -/
instance (w : World ι) (m : Move ι) : Decidable (w.Valid m) :=
  match m with
  | .step _ _ => inferInstanceAs (Decidable (_ ≤ _))
  | .stop _ => .isTrue trivial
  | .work _ => inferInstanceAs (Decidable (∀ _, _))

/-- Decided by `is_poller_due`. The cases are the moves. -/
instance (w : World ι) (m : Move ι) : Decidable (w.StillDue m) :=
  match m with
  | .step _ _ => inferInstanceAs (Decidable (∀ _ ∈ _, _))
  | .stop _ => .isTrue trivial
  | .work _ => .isTrue trivial

/-- The stamps of each poller lie its interval less the tolerance apart. -/
def Spaced (w : World ι) : Prop :=
  ∀ p : Scheduled, (w.stamps p).Pairwise fun g' g => g + p.distance ≤ g'

/-- What the stamps say about the tables, in every world that processes can make. -/
structure Ok (w : World ι) : Prop where
  recorded : ∀ p, ∀ g ∈ (w.stamps p).head?, w.db.lastRun p.name = some g
  /-- as long as a poller was never stamped, a process that found it due is right -/
  unstamped : ∀ i p, (w.processes i).due p = true → w.stamps p = [] →
    ∀ g ∈ w.db.lastRun p.name, g + p.distance ≤ w.clock

/-- Nothing has been stamped or found due in the beginning. -/
theorem start_ok (clock : Timestamp) (db : Database) : (start clock db : World ι).Ok where
  recorded _ _ hg := nomatch hg
  unstamped _ _ hdue := nomatch hdue

variable [DecidableEq ι]

/-- What a move makes of a world: a step executes one due-check or stamp at the time of its call. -/
def move (w : World ι) : Move ι → World ι
  | .step i now =>
    match (w.processes i).todo with
    | [] => w
    | t :: ts =>
      let (due, db) := t.exec now (w.processes i).due w.db
      { clock := now
        db
        processes := Function.update w.processes i ⟨ts, due⟩
        stamps := fun p => if w.stamping i = some p then now :: w.stamps p else w.stamps p }
  | .stop i =>
    { w with processes := Function.update w.processes i { w.processes i with todo := [] } }
  | .work db => { w with db }

/-- One move after another. -/
def run (w : World ι) : List (Move ι) → World ι
  | [] => w
  | m :: ms => (w.move m).run ms

/-- Every move of a run has a property, in the world where it is made. -/
def Along (P : World ι → Move ι → Prop) (w : World ι) : List (Move ι) → Prop
  | [] => True
  | m :: ms => P w m ∧ Along P (w.move m) ms

/-- Decided move by move. -/
instance decidableAlong (P : World ι → Move ι → Prop) [∀ w m, Decidable (P w m)] (w : World ι)
    (ms : List (Move ι)) : Decidable (Along P w ms) :=
  match ms with
  | [] => .isTrue trivial
  | m :: ms => haveI := decidableAlong P (w.move m) ms; inferInstanceAs (Decidable (_ ∧ _))

/-- A step of a process that is not over. -/
theorem move_step {w : World ι} {i : ι} {t : Todo} {ts : List Todo}
    (h : (w.processes i).todo = t :: ts) (now : Timestamp) :
    w.move (.step i now) =
      { clock := now
        db := (t.exec now (w.processes i).due w.db).2
        processes := Function.update w.processes i ⟨ts, (t.exec now (w.processes i).due w.db).1⟩
        stamps := fun p => if w.stamping i = some p then now :: w.stamps p else w.stamps p } := by
  rw [move, h]

/-- A process that is over takes no step. -/
theorem move_step_nil {w : World ι} {i : ι} (h : (w.processes i).todo = []) (now : Timestamp) :
    w.move (.step i now) = w := by
  rw [move, h]

/-- Every valid move keeps what the stamps say about the tables. -/
theorem Ok.move {w : World ι} (h : w.Ok) {m : Move ι} (hv : w.Valid m) : (w.move m).Ok := by
  cases m with
  | stop i =>
    refine ⟨h.recorded, fun j p hdue => h.unstamped j p ?_⟩
    simp only [World.move, Function.update_apply] at hdue
    split at hdue
    · next hij => exact hij ▸ hdue
    · exact hdue
  | work db =>
    refine ⟨fun p g hg => (hv p).trans (h.recorded p g hg), fun i p hdue hp => ?_⟩
    rw [World.move, hv p]
    exact h.unstamped i p hdue hp
  | step i now =>
    cases ht : (w.processes i).todo with
    | nil =>
      rw [move_step_nil ht]
      exact h
    | cons t ts =>
      rw [move_step ht, stamping_eq ht]
      refine ⟨fun p g hg => ?_, fun j p hdue hp => ?_⟩
      · rw [Todo.exec_lastRun]
        simp only at hg
        split
        · next hstamp =>
          rw [if_pos hstamp] at hg
          exact hg
        · next hstamp =>
          rw [if_neg hstamp] at hg
          exact h.recorded p g hg
      · simp only at hp
        split at hp
        · cases hp
        · next hstamp =>
          rw [Todo.exec_lastRun, if_neg hstamp]
          -- found due before this step, or by this step, which is a due-check
          have hbefore : ∀ j, (w.processes j).due p = true →
              ∀ g ∈ w.db.lastRun p.name, g + p.distance ≤ now :=
            fun j hdue g hg => (h.unstamped j p hdue hp g hg).trans hv
          simp only [Function.update_apply] at hdue
          split at hdue
          · rcases Todo.exec_due hdue with hdue | hdue
            · exact hbefore i hdue
            · exact Scheduled.isDue_iff.1 hdue
          · exact hbefore j hdue

omit [DecidableEq ι] in
/-- A stamp of a process keeps the distance to those before it when the poller is still due, and not
otherwise: the last of them is what a due-check would read. -/
theorem Ok.pairwise_stamp_iff {w : World ι} (h : w.Ok) (hs : w.Spaced) {i : ι} {p : Scheduled}
    {now : Timestamp} (hv : w.clock ≤ now) (hdue : (w.processes i).due p = true) :
    ((now :: w.stamps p).Pairwise fun g' g => g + p.distance ≤ g') ↔
      Sql.isPollerDue p.name p.interval now w.db = true := by
  rw [Scheduled.isDue_iff]
  cases hstamps : w.stamps p with
  | nil =>
    exact iff_of_true (List.pairwise_singleton _ _) fun g hg =>
      (h.unstamped i p hdue hstamps g hg).trans hv
  | cons g' gs =>
    have hlast := h.recorded p g' (by rw [hstamps]; rfl)
    have hsp := hs p
    rw [hstamps] at hsp
    rw [hlast, List.pairwise_cons]
    refine ⟨?_, fun hstill => ⟨fun g hg => ?_, hsp⟩⟩
    · rintro ⟨hall, -⟩ g hg
      cases hg
      exact hall g' (.head _)
    · have hle := hstill g' rfl
      rcases List.mem_cons.1 hg with rfl | hg
      · exact hle
      · have hle' := List.rel_of_pairwise_cons hsp hg
        have hpos := p.distance_pos
        linarith

/-- The step: stamps keep the distance when their pollers are still due, and not otherwise. -/
theorem Ok.spaced_move_iff {w : World ι} (h : w.Ok) (hs : w.Spaced) {m : Move ι} (hv : w.Valid m) :
    (w.move m).Spaced ↔ w.StillDue m := by
  cases m with
  | stop i => exact iff_of_true hs trivial
  | work db => exact iff_of_true hs trivial
  | step i now =>
    cases ht : (w.processes i).todo with
    | nil =>
      rw [move_step_nil ht, StillDue, stamping_nil ht]
      exact iff_of_true hs nofun
    | cons t ts =>
      rw [move_step ht, StillDue, Spaced]
      refine forall_congr' fun p => ?_
      simp only
      split
      · next hp =>
        have hdue : (w.processes i).due p = true :=
          (Todo.stamped_eq_some.1 ((stamping_eq ht).symm.trans hp)).2
        rw [h.pairwise_stamp_iff hs hv hdue]
        exact ⟨fun hstill _ => hstill, fun hstill => hstill hp⟩
      · next hp => exact iff_of_true (hs p) fun hp' => absurd hp' hp

/-- Stamps are never taken back. -/
theorem stamps_suffix (w : World ι) (ms : List (Move ι)) (p : Scheduled) :
    w.stamps p <:+ (w.run ms).stamps p := by
  induction ms generalizing w with
  | nil => exact List.suffix_rfl
  | cons m ms ih =>
    refine List.IsSuffix.trans ?_ (ih (w.move m))
    cases m with
    | stop i => exact List.suffix_rfl
    | work db => exact List.suffix_rfl
    | step i now =>
      cases ht : (w.processes i).todo with
      | nil => exact (move_step_nil ht now).symm ▸ List.suffix_rfl
      | cons t ts =>
        rw [move_step ht]
        simp only
        split
        · exact List.suffix_cons _ _
        · exact List.suffix_rfl

/-- Stamps that are too close stay so: a run only adds stamps. -/
theorem Spaced.of_run {w : World ι} {ms : List (Move ι)} (h : (w.run ms).Spaced) : w.Spaced :=
  fun p => (h p).sublist (stamps_suffix w ms p).sublist

/-- Along a run the stamps keep their distance exactly when each was taken while its poller was due,
by induction on the moves. -/
theorem Ok.spaced_run_iff {w : World ι} (h : w.Ok) (hs : w.Spaced) {ms : List (Move ι)}
    (hv : Along Valid w ms) : (w.run ms).Spaced ↔ Along StillDue w ms := by
  induction ms generalizing w with
  | nil => exact iff_of_true hs trivial
  | cons m ms ih =>
    have hmove := h.spaced_move_iff hs hv.1
    refine ⟨fun hrun => ?_, fun hdue => ?_⟩
    · have hs' := Spaced.of_run (w := w.move m) hrun
      exact ⟨hmove.1 hs', (ih (h.move hv.1) hs' hv.2).1 hrun⟩
    · exact (ih (h.move hv.1) (hmove.2 hdue.1) hv.2).2 hdue.2

end World

end Overlap

open Overlap World

/-- The stamps of every poller keep their distance, whatever the number and the order of
processes. -/
def StampsSpaced : Prop :=
  ∀ (clock : Timestamp) (db : Database) (ms : List (Move ℕ)), Along Valid (start clock db) ms →
    ((start clock db).run ms).Spaced

/-- In every interleaving of any number of processes, the stamps of every poller keep their distance
if and only if each stamp is taken while its poller is still due. -/
theorem stamps_spaced_iff {ι : Type} [DecidableEq ι] {clock : Timestamp} {db : Database}
    {ms : List (Move ι)} (hv : Along Valid (start clock db) ms) :
    ((start clock db).run ms).Spaced ↔ Along StillDue (start clock db) ms :=
  (start_ok clock db).spaced_run_iff (fun _ => .nil) hv

namespace OverlapFixture

/-- A process takes its four steps at one time. -/
def whole (i : ℕ) (now : Timestamp) : List (Move ℕ) := List.replicate 4 (.step i now)

/-- Two processes, one after the other, an hour apart. -/
def hourly : List (Move ℕ) := whole 0 0 ++ whole 1 kGpInterval

/-- Both due-checks of each of two processes come before the stamps of either. -/
def crossed : List (Move ℕ) :=
  [.step 0 0, .step 0 0, .step 1 0, .step 1 0, .step 0 0, .step 0 0, .step 1 0, .step 1 0]

end OverlapFixture

open OverlapFixture in
/-- Two processes an hour apart stamp what is due, and their stamps are spaced. -/
theorem stamps_spaced_iff_hourly : ((start 0 .empty).run hourly).Spaced :=
  (stamps_spaced_iff (by decide +kernel)).2 (by decide +kernel)

open OverlapFixture in
/-- Two processes that both find both pollers due stamp both of them. -/
theorem not_stampsSpaced : ¬ StampsSpaced := by
  intro h
  have hspaced := h 0 .empty crossed (by decide +kernel) .gp
  exact absurd hspaced (by decide)

end VitaleBackend
