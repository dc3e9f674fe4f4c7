import Mathlib.Logic.Function.Basic
import Mathlib.Data.Int.ConditionallyCompleteOrder
import Mathlib.Data.Int.Interval
import VitaleBackend.Lib.Lineage
import VitaleBackend.Poller.GpPart
import VitaleBackend.Poller.Request
import VitaleBackend.Poller.Upsert

/-!
# Rotations that overlap

Cron starts a process every hour whether or not the one before is done, so that a run may select its
targets before another has moved the cursor, and move the cursor back after it (`Step`). The cursor
is a cell that the runs update, and a chain of them leads to where it is: the rotation passes over
no object for all that (`overlapping_never_skips`). It only takes longer: the bound on the wait for
an object grows by the number of runs that one run may miss (`overlapping_bounded_staleness`).
-/

namespace VitaleBackend

open Process Relational Sweep Lineage

namespace Rotations

/-- How far a process is with a GP run. -/
inductive Stage where
  | idle
  /-- it has selected its hot targets -/
  | hot (atHot : Database)
  /-- it has selected its rotation targets too; so many runs had moved the cursor by then -/
  | asking (run : GpRun) (seen : Nat)

/-- A run that has moved the cursor, and how many others did since it selected its targets. -/
structure Finished where
  run : GpRun
  unseen : Nat

namespace Finished

/-- The cursor that the run selects its targets by. -/
def read (f : Finished) : Option Int := f.run.atRotation.rotationCursor

/-- The cursor that it leaves. -/
def wrote (f : Finished) : Option Int := f.run.rotationTargets.getLast?

/-- The run as a visit of the sweep. -/
def visit (f : Finished) : Visit Int where
  before := f.read.getD (-1)
  after := f.wrote.getD (-1)
  eligible := {x | Undecayed f.run.atRotation x}
  requested := {x | x ∈ f.run.requested}
  wraps := f.run.Wraps

/-- A run requests what it passes, so that it is a sound visit, whatever others did since it read
the cursor. -/
theorem visit_sound (f : Finished) : f.visit.Sound where
  ahead x hx hlt hle := by
    by_cases hw : f.run.Wraps
    · exact GpRun.mem_requested_of_wraps hw hx hlt
    · obtain ⟨last, hlast⟩ := GpRun.exists_getLast hw
      have hx' : x ≤ f.wrote.getD (-1) := hle.resolve_right hw
      rw [wrote, hlast] at hx'
      exact GpRun.mem_requested_of_le hw (List.mem_of_getLast? hlast) hx hlt hx'
  behind hw x hx hle := by
    refine GpRun.mem_requested_of_wraps_le hw hx fun last hlast => ?_
    rw [Option.mem_def] at hlast
    change x ≤ f.wrote.getD (-1) at hle
    rwa [wrote, hlast] at hle

/-- A run comes 300 objects nearer to every object that it does not request. -/
theorem advances (f : Finished) {U : Finset Int}
    (hU : ∀ y, y ∈ U ↔ Undecayed f.run.atRotation y) : f.visit.Advances U 300 := by
  intro x hx hnot
  show (ahead U (f.wrote.getD (-1)) x).card + 300 ≤ (ahead U (f.read.getD (-1)) x).card
  by_cases hw : f.run.Wraps
  · obtain ⟨last, hlast, hcard⟩ := GpRun.advances_wrap hU hw hx hnot
    rwa [wrote, hlast]
  · obtain ⟨last, hlast⟩ := GpRun.exists_getLast hw
    rw [wrote, hlast]
    exact GpRun.advances_full hU hw hlast hx hnot

end Finished

/-- The processes at work on one database. -/
structure World (ι : Type) where
  db : Database
  stages : ι → Stage
  finished : List Finished

/-- No process is in a GP run. -/
def World.start (db : Database) : World ι := ⟨db, fun _ => .idle, []⟩

section
variable {ι : Type} [DecidableEq ι]

/-- A process selects its targets, or moves the cursor once the response is worked off, or comes to
an end at any point; or anything else is committed, by this process or another, that leaves the
cursor where it is. -/
inductive Step : World ι → World ι → Prop
  | selectHot {w : World ι} (i : ι) (h : w.stages i = .idle) :
      Step w { w with stages := Function.update w.stages i (.hot w.db) }
  | selectRotation {w : World ι} (i : ι) {atHot : Database} (h : w.stages i = .hot atHot)
      (start : Session) :
      Step w { w with
        stages := Function.update w.stages i (.asking ⟨atHot, w.db, start⟩ w.finished.length) }
  | advance {w : World ι} (i : ι) {run : GpRun} {seen : Nat} (h : w.stages i = .asking run seen)
      {newCursor : Int} (hlast : run.rotationTargets.getLast? = some newCursor) {now : Timestamp}
      {db : Database} (hdb : Sql.advanceGpRotationCursor newCursor now w.db = .ok db) :
      Step w ⟨db, Function.update w.stages i .idle,
        w.finished ++ [⟨run, w.finished.length - seen⟩]⟩
  | leave {w : World ι} (i : ι) :
      Step w { w with stages := Function.update w.stages i .idle }
  | other {w : World ι} {db : Database} (h : db.rotationCursor = w.db.rotationCursor) :
      Step w { w with db }

/-- Processes take their steps in any order. -/
abbrev Run : World ι → World ι → Prop := Relation.ReflTransGen Step

/-! ## The cursor as a cell -/

/-- The cursor was written by the runs that have finished, and a run that has not has read what the
first of them left. -/
structure Inv (cursor : Option Int) (w : World ι) : Prop where
  written : Written Finished.read Finished.wrote Finished.unseen cursor w.finished
  cursor_eq : w.db.rotationCursor = content Finished.wrote cursor w.finished
  asking : ∀ i run seen, w.stages i = .asking run seen → seen ≤ w.finished.length ∧
    run.atRotation.rotationCursor = content Finished.wrote cursor (w.finished.take seen)

variable {cursor : Option Int} {w w' : World ι}

omit [DecidableEq ι] in
/-- Before any run has moved the cursor it is where it started. -/
theorem Inv.start (db : Database) : Inv db.rotationCursor (World.start db : World ι) where
  written := .nil
  cursor_eq := rfl
  asking _ _ _ h := nomatch h

/-- What a process reads stays the same when others move on. -/
theorem Inv.update (h : Inv cursor w) {i : ι} {stage : Stage}
    (hstage : ∀ run seen, stage = .asking run seen → seen ≤ w.finished.length ∧
      run.atRotation.rotationCursor = content Finished.wrote cursor (w.finished.take seen)) :
    Inv cursor { w with stages := Function.update w.stages i stage } where
  written := h.written
  cursor_eq := h.cursor_eq
  asking j run seen hj := by
    change Function.update w.stages i stage j = .asking run seen at hj
    rw [Function.update_apply] at hj
    split at hj
    · exact hstage run seen hj
    · exact h.asking j run seen hj

/-- Every step keeps the invariant. Only the moves of the cursor add to it. -/
theorem Inv.step (h : Inv cursor w) (hstep : Step w w') : Inv cursor w' := by
  cases hstep with
  | selectHot i hi => exact h.update fun _ _ hasking => nomatch hasking
  | selectRotation i hi start =>
    refine h.update fun run seen hasking => ?_
    cases hasking
    rw [List.take_length]
    exact ⟨le_refl _, h.cursor_eq⟩
  | @advance i run seen hi newCursor hlast now db hdb =>
    obtain ⟨hseen, hread⟩ := h.asking i run seen hi
    have hmissed : w.finished.length - (w.finished.length - seen) = seen := by omega
    refine ⟨h.written.write (Nat.sub_le _ _) ?_, ?_, fun j run' seen' hj => ?_⟩
    · show run.atRotation.rotationCursor = _
      rw [hmissed]
      exact hread
    · rw [content_concat, Sql.rotationCursor_advance hdb]
      exact hlast.symm
    · change Function.update w.stages i .idle j = .asking run' seen' at hj
      rw [Function.update_apply] at hj
      split at hj
      · cases hj
      · obtain ⟨hseen', hread'⟩ := h.asking j run' seen' hj
        rw [List.length_append, List.take_append_of_le_length hseen']
        exact ⟨Nat.le_add_right_of_le hseen', hread'⟩
  | leave i => exact h.update fun _ _ hasking => nomatch hasking
  | other hcursor => exact ⟨h.written, hcursor.trans h.cursor_eq, h.asking⟩

/-- Every run keeps the invariant. -/
theorem Inv.run (h : Inv cursor w) (hrun : Run w w') : Inv cursor w' := by
  induction hrun with
  | refl => exact h
  | tail _ hstep ih => exact ih.step hstep

/-- Finished runs of which each starts at the cursor that the one before it left, from one cursor to
another. -/
structure Leads (runs : List Finished) (cursor cursor' : Option Int) : Prop where
  chain : Chain Finished.read Finished.wrote cursor runs
  content_eq : content Finished.wrote cursor runs = cursor'

omit [DecidableEq ι] in
/-- A chain of updates of the cursor is a chain of visits. -/
theorem chained_visits {chain : List Finished} {cursor : Option Int}
    (h : Chain Finished.read Finished.wrote cursor chain) :
    Chained (cursor.getD (-1)) (chain.map Finished.visit) := by
  induction chain generalizing cursor with
  | nil => trivial
  | cons f chain ih => exact ⟨congrArg (·.getD (-1)) h.1, ih h.2⟩

/-- The position after such a chain is what its last update wrote. -/
theorem position_visits (cursor : Option Int) (chain : List Finished) :
    position (cursor.getD (-1)) (chain.map Finished.visit) =
      (content Finished.wrote cursor chain).getD (-1) := by
  induction chain generalizing cursor with
  | nil => rfl
  | cons f chain ih =>
    rw [content_cons, ← ih]
    rfl

/-! ## No object is passed over -/

/-- However the runs overlap, some of them lead one by one from the first cursor to the last. What
they pass on the way they request, if it is undecayed at the select of each. -/
theorem overlapping_never_skips {db : Database} (h : Run (.start db) w) :
    ∃ chain, chain.Sublist w.finished ∧
      Leads chain db.rotationCursor w.db.rotationCursor ∧
      ∀ x, (∀ f ∈ chain, Undecayed f.run.atRotation x) →
        Passes (db.rotationCursor.getD (-1)) (w.db.rotationCursor.getD (-1))
          (chain.countP fun f => decide f.run.Wraps) x →
        ∃ f ∈ chain, x ∈ f.run.requested := by
  have hinv := (Inv.start db).run h
  obtain ⟨chain, hsub, hchain, hcontent, -⟩ := hinv.written.exists_chain
  refine ⟨chain, hsub, ⟨hchain, hcontent.trans hinv.cursor_eq.symm⟩, fun x hx hpass => ?_⟩
  rw [hinv.cursor_eq, ← hcontent, ← position_visits] at hpass
  exact requested_of_passes (chained_visits hchain) (fun f _ => f.visit_sound) hx
    (fun f _ => decide_eq_true_iff (p := f.run.Wraps)) hpass

/-- Over a catalogue whose undecayed objects stay the same, each of the `N` objects is requested
among `⌈N / 300⌉` runs, or `k + 1` times as many when a run may miss `k` others. -/
theorem overlapping_bounded_staleness {db : Database} (h : Run (.start db) w) {U : Finset Int}
    (hU : ∀ f ∈ w.finished, ∀ y, y ∈ U ↔ Undecayed f.run.atRotation y) {k : Nat}
    (hk : ∀ f ∈ w.finished, f.unseen ≤ k)
    (hcount : (k + 1) * ((U.card + 299) / 300) ≤ w.finished.length) :
    ∀ x ∈ U, ∃ f ∈ w.finished, x ∈ f.run.requested := by
  intro x hx
  have hinv := (Inv.start db).run h
  obtain ⟨chain, hsub, hchain, -, hlen⟩ := hinv.written.exists_chain
  have hlong : (U.card + 299) / 300 ≤ chain.length :=
    Nat.le_of_mul_le_mul_left (hcount.trans (hlen k hk)) (Nat.succ_pos k)
  -- every run of the chain has moved the cursor
  let works : Finished → Bool := fun _ => true
  have hworks : ∀ f ∈ chain, works f = true → f.visit.Advances U 300 :=
    fun f hf _ => f.advances (hU f (hsub.subset hf))
  have hreach : U.card ≤ 300 * chain.countP works := by
    rw [List.countP_true]
    omega
  obtain ⟨f, hf, hreq⟩ := requested_in_time (chained_visits hchain) hworks
    (fun _ _ hidle => nomatch hidle) hreach hx
  exact ⟨f, hsub.subset hf, hreq⟩

/-! ## The runs of `main` -/

/-- What an invocation commits besides the move of its cursor. -/
inductive OwnCommit (X : Externals) (db : Database) : Database → Prop
  | batch {call : Call} {objs : List ObjectRecord} {events : List DetectedEvent} {db' : Database} :
      Sql.upsertObjectsFromSatcat X makeDefaultObjectRuleRegistry call objs db = .ok (events, db') →
        OwnCommit X db db'
  | snapshot {call : Call} {snap : Snapshot} {id : Nat} {db' : Database} :
      Sql.insertSnapshot X call snap db = .ok (id, db') → OwnCommit X db db'
  | event {call : Call} {n : Int} {e : DetectedEvent} {p q : Nat} {db' : Database} :
      Sql.insertEvent call n e (some p) (some q) db = .ok db' → OwnCommit X db db'
  | stamp (pollerName : String) (now : Timestamp) :
      OwnCommit X db (Sql.markPollerRun pollerName now db)

omit [DecidableEq ι] in
/-- A stamp leaves the cursor where it is: it writes another column of the row. -/
theorem rotationCursor_markPollerRun (pollerName : String) (now : Timestamp) (db : Database) :
    (Sql.markPollerRun pollerName now db).rotationCursor = db.rotationCursor := by
  unfold Sql.markPollerRun Database.rotationCursor Database.withPollerState
  rw [Table.find?_upsert]
  split
  · next h =>
    cases hrow : db.pollerState.find? "gp" <;> rfl
  · rfl

omit [DecidableEq ι] in
/-- Of all that an invocation commits, only the move of the cursor moves the cursor. -/
theorem OwnCommit.rotationCursor {X : Externals} {db db' : Database} (h : OwnCommit X db db') :
    db'.rotationCursor = db.rotationCursor := by
  cases h with
  | batch h =>
    have hkept : db'.pollerState = db.pollerState := upsertObjectsFromSatcat_preserves
      (P := fun db' => db'.pollerState = db.pollerState)
      (fun _ _ _ _ hrow hp => hrow.pollerState.trans hp) h rfl
    unfold Database.rotationCursor
    rw [hkept]
  | snapshot h =>
    obtain ⟨row, -, -, ha, rfl⟩ := Sql.insertSnapshot_ok.1 h
    rfl
  | event h =>
    obtain ⟨ha, rfl⟩ := Sql.insertEvent_ok.1 h
    rfl
  | stamp pollerName now => exact rotationCursor_markPollerRun pollerName now db

/-- The steps of one process while all others wait: its selects of the tables that are there, its
move of the cursor, its end, and what else it commits. -/
inductive OwnStep (X : Externals) (i : ι) : World ι → World ι → Prop
  | selectHot {w : World ι} (h : w.stages i = .idle) :
      OwnStep X i w { w with stages := Function.update w.stages i (.hot w.db) }
  | selectRotation {w : World ι} {atHot : Database} (h : w.stages i = .hot atHot)
      (start : Session) :
      OwnStep X i w { w with
        stages := Function.update w.stages i (.asking ⟨atHot, w.db, start⟩ w.finished.length) }
  | advance {w : World ι} {run : GpRun} {seen : Nat} (h : w.stages i = .asking run seen)
      {newCursor : Int} (hlast : run.rotationTargets.getLast? = some newCursor) {now : Timestamp}
      {db : Database} (hdb : Sql.advanceGpRotationCursor newCursor now w.db = .ok db) :
      OwnStep X i w ⟨db, Function.update w.stages i .idle,
        w.finished ++ [⟨run, w.finished.length - seen⟩]⟩
  | leave {w : World ι} :
      OwnStep X i w { w with stages := Function.update w.stages i .idle }
  | commit {w : World ι} {db : Database} (h : OwnCommit X w.db db) : OwnStep X i w { w with db }

/-- Some steps of one process. -/
abbrev OwnRun (X : Externals) (i : ι) : World ι → World ι → Prop :=
  Relation.ReflTransGen (OwnStep X i)

/-- A step of one process is a step of the machine. -/
theorem OwnStep.step {X : Externals} {i : ι} (h : OwnStep X i w w') : Step w w' := by
  cases h with
  | selectHot h => exact .selectHot i h
  | selectRotation h start => exact .selectRotation i h start
  | advance h hlast hdb => exact .advance i h hlast hdb
  | leave => exact .leave i
  | commit h => exact .other h.rotationCursor

/-- The steps of one process are a run of the machine. -/
theorem OwnRun.run {X : Externals} {i : ι} (h : OwnRun X i w w') : Run w w' :=
  Relation.ReflTransGen.mono (p := Step) (fun _ _ => OwnStep.step) _ _ h

/-- What a process commits besides its cursor changes the tables and nothing else. -/
theorem ownRun_commits {X : Externals} {db db' : Database}
    (h : Relation.ReflTransGen (OwnCommit X) db db') (i : ι) (stages : ι → Stage)
    (finished : List Finished) : OwnRun X i ⟨db, stages, finished⟩ ⟨db', stages, finished⟩ :=
  Relation.ReflTransGen.lift (p := OwnStep X i) (fun db => (⟨db, stages, finished⟩ : World ι))
    (fun _ _ h => .commit h) _ _ h

/-- A process that is idle selects both kinds of targets from the tables that are there. -/
theorem ownRun_selects {X : Externals} (i : ι) (stages : ι → Stage) (hidle : stages i = .idle)
    (finished : List Finished) {r : GpRun} (hhot : r.atHot = r.start.db)
    (hrotation : r.atRotation = r.start.db) :
    OwnRun X i ⟨r.start.db, stages, finished⟩
      ⟨r.start.db, Function.update stages i (.asking r finished.length), finished⟩ := by
  obtain ⟨atHot, atRotation, start⟩ := r
  obtain rfl : atHot = start.db := hhot
  obtain rfl : atRotation = start.db := hrotation
  refine .tail (.single (.selectHot hidle)) ?_
  have hselect := OwnStep.selectRotation (X := X)
    (w := ⟨start.db, Function.update stages i (.hot start.db), finished⟩)
    (Function.update_self i _ stages) start
  rwa [Function.update_idem] at hselect

/-- What one invocation adds to the finished runs: its own GP run, once, when this succeeds and has
rotation targets, with the cursor as it was when it selected them. -/
structure OneRun (X : Externals) (s : Session) (more : List Finished) : Prop where
  length_le : more.length ≤ 1
  own : ∀ f ∈ more, s.gpRun X = some f.run ∧ f.run.Succeeds X ∧ f.unseen = 0
  moved : ∀ r, s.gpRun X = some r → r.Succeeds X → r.rotationTargets ≠ [] → ∃ f ∈ more, f.run = r

omit [DecidableEq ι] in
/-- An invocation that moves no cursor adds nothing. -/
theorem OneRun.nil {X : Externals} {s : Session}
    (h : ∀ r, s.gpRun X = some r → r.Succeeds X → r.rotationTargets = []) : OneRun X s [] where
  length_le := Nat.zero_le _
  own := List.forall_mem_nil _
  moved r hr hs hne := absurd (h r hr hs) hne

/-- The GP run of an invocation is worked off while the others wait: the selects, what the records
commit, and the move of the cursor when it comes to that. -/
theorem gpRun_among_rotations {X : Externals} {s : Session} {r : GpRun}
    (hr : s.gpRun X = some r) (hhot : r.atHot = r.start.db) (hrotation : r.atRotation = r.start.db)
    {i : ι} {stages : ι → Stage} (hidle : stages i = .idle) (finished : List Finished) :
    ∃ more, OwnRun X i ⟨r.start.db, stages, finished⟩
      ⟨(r.finish X).db, stages, finished ++ more⟩ ∧ OneRun X s more := by
  have hframe : RecordFrame X (Relation.ReflTransGen (OwnCommit X)) :=
    ⟨fun _ _ _ _ _ h => .single (.snapshot h), fun _ _ _ _ _ _ _ _ h => .single (.event h)⟩
  -- a run that moves no cursor only commits
  have hplain : ∀ db, Relation.ReflTransGen (OwnCommit X) r.start.db db →
      OwnRun X i ⟨r.start.db, stages, finished⟩ ⟨db, stages, finished ++ []⟩ := by
    intro db hdb
    rw [List.append_nil]
    exact ownRun_commits hdb i stages finished
  rcases r.finish_cases hframe with ⟨hs, mid, hmid, hmoved⟩ | ⟨hs, hdb⟩
  · unfold Advanced at hmoved
    cases hlast : r.rotationTargets.getLast? with
    | none =>
      rw [hlast] at hmoved
      refine ⟨[], hplain _ (hmoved ▸ hmid), .nil fun r' hr' _ => ?_⟩
      cases hr.symm.trans hr'
      exact List.getLast?_eq_none_iff.1 hlast
    | some newCursor =>
      rw [hlast] at hmoved
      obtain ⟨now, hcursor⟩ := hmoved
      refine ⟨[⟨r, finished.length - finished.length⟩], ?_, le_refl _,
        List.forall_mem_singleton.2 ⟨hr, hs, Nat.sub_self _⟩, fun r' hr' _ _ => ?_⟩
      · refine (ownRun_selects _ _ hidle finished hhot hrotation).trans
          ((ownRun_commits hmid i _ finished).tail ?_)
        have hadvance := OwnStep.advance (X := X) (w := ⟨mid, Function.update stages i
          (.asking r finished.length), finished⟩) (Function.update_self i _ stages) hlast hcursor
        dsimp only at hadvance
        rwa [Function.update_idem, ← hidle, Function.update_eq_self] at hadvance
      · cases hr.symm.trans hr'
        exact ⟨_, .head _, rfl⟩
  · refine ⟨[], hplain _ hdb, .nil fun r' hr' hs' => ?_⟩
    cases hr.symm.trans hr'
    exact absurd hs' hs

/-- Every cron invocation, in whatever environment, is one of the runs while all others wait. It
selects its targets from the tables that its own commits have led to, moves the cursor at most once,
to the last of them, when its GP run succeeds, and commits nothing else that moves it. -/
theorem main_among_rotations (X : Externals) {i : ι} (hidle : w.stages i = .idle) {s : Session}
    (hs : s.db = w.db) : ∃ more, OneRun X s more ∧
      OwnRun X i w ⟨(main X s).2.db, w.stages, w.finished ++ more⟩ ∧
      Run w ⟨(main X s).2.db, w.stages, w.finished ++ more⟩ := by
  have hbefore : Proc.Within (OnRun (Relation.ReflTransGen (OwnCommit X))) (beforeGp X) :=
    beforeGp_onRun (fun pollerName now db => .single (.stamp pollerName now))
      (satcat_processResponse_within X fun _ _ _ _ _ h => .single (.batch h))
  have hown : ∃ more, OneRun X s more ∧
      OwnRun X i w ⟨(main X s).2.db, w.stages, w.finished ++ more⟩ := by
    rcases gpRun_cases hbefore s with ⟨r, hr, hends⟩ | ⟨hnone, hdb⟩
    · obtain ⟨more, hrun, hone⟩ := gpRun_among_rotations hr hends.atHot hends.atRotation hidle
        w.finished
      rw [hends.finish]
      have hfirst := ownRun_commits hends.before i w.stages w.finished
      rw [hs] at hfirst
      exact ⟨more, hone, hfirst.trans hrun⟩
    · refine ⟨[], OneRun.nil (fun r hr => nomatch hnone.symm.trans hr), ?_⟩
      rw [List.append_nil]
      have hrun := ownRun_commits hdb i w.stages w.finished
      rwa [hs] at hrun
  obtain ⟨more, hone, hrun⟩ := hown
  exact ⟨more, hone, hrun, hrun.run⟩

end

end Rotations

namespace RotationsFixture

open Rotations RotationFixture

/-- A moved cursor stays in the row of its poller. -/
theorem moved_key (newCursor : Int) (row : PollerRow) :
    ({ row with rotationCursor := some newCursor } : PollerRow).pollerName = row.pollerName := rfl

/-- The tables with the cursor at an object. -/
def moved (newCursor : Int) (db : Database) : Database :=
  db.withPollerState (db.pollerState.upsert ⟨"gp", 0, some newCursor⟩
    (fun row => { row with rotationCursor := some newCursor }) (moved_key newCursor))

/-- Two processes select their targets before either of them moves the cursor. -/
theorem pair_run {db : Database} {newCursor : Int} (hint : IsInt32 newCursor)
    (hlast : (runOn db).rotationTargets.getLast? = some newCursor) (finished : List Finished) :
    Rotations.Run (⟨db, fun _ => .idle, finished⟩ : Rotations.World Bool)
      ⟨moved newCursor (moved newCursor db), fun _ => .idle,
        finished ++ [⟨runOn db, 0⟩, ⟨runOn db, 1⟩]⟩ := by
  have hmoved : ∀ db, Sql.advanceGpRotationCursor newCursor 0 db = .ok (moved newCursor db) :=
    fun db => Sql.advanceGpRotationCursor_ok.2 ⟨hint, rfl⟩
  have hfirst := (ownRun_selects (X := externals) (r := runOn db) true (fun _ => .idle) rfl
    finished rfl rfl).run
  have hsecond := (ownRun_selects (X := externals) (r := runOn db) false
    (Function.update (fun _ => .idle) true (.asking (runOn db) finished.length)) rfl
    finished rfl rfl).run
  have hboth := (hfirst.trans hsecond).tail (.advance true rfl hlast (hmoved db))
  have hadvance := hboth.tail (Rotations.Step.advance false rfl hlast (hmoved _))
  simp only [Nat.sub_self, List.length_append, List.length_singleton, Nat.add_sub_cancel_left,
    List.append_assoc, List.singleton_append] at hadvance
  have hidle : ∀ a b : Rotations.Stage,
      Function.update (Function.update (Function.update (Function.update
        (fun _ : Bool => Rotations.Stage.idle) true a) false b) true .idle) false .idle =
        fun _ => .idle := by
    intro a b
    funext i
    cases i <;> rfl
  rw [hidle] at hadvance
  exact hadvance

/-- The second pair of runs finds the cursor that the first pair left. -/
def again : GpRun := runOn (moved 500 (moved 500 crowd))

/-- Two processes have each made two runs at the same time. -/
def both : Rotations.World Bool where
  db := moved 400 (moved 400 (moved 500 (moved 500 crowd)))
  stages := fun _ => .idle
  finished := [⟨first, 0⟩, ⟨first, 1⟩, ⟨again, 0⟩, ⟨again, 1⟩]

/-- Both processes make their first runs at the same time, and then their second ones. -/
theorem both_run : Rotations.Run (.start crowd) both :=
  (pair_run (by decide) (by decide +kernel) []).trans
    (pair_run (by decide) (by decide +kernel) [⟨first, 0⟩, ⟨first, 1⟩])

/-- The undecayed objects are the same for all four runs. -/
theorem both_undecayed : ∀ f ∈ both.finished, ∀ y, y ∈ Finset.Icc (1 : Int) 600 ↔
    Undecayed f.run.atRotation y := by
  have hcrowd : ∀ db : Database, db.objects = crowd.objects → ∀ y,
      y ∈ Finset.Icc (1 : Int) 600 ↔ Undecayed (runOn db).atRotation y := by
    intro db hdb y
    rw [Finset.mem_Icc]
    exact (undecayed_of (n := 600) hdb y).symm
  have hfirst := hcrowd crowd rfl
  have hagain := hcrowd (moved 500 (moved 500 crowd)) rfl
  exact List.forall_mem_cons.2 ⟨hfirst, List.forall_mem_cons.2 ⟨hfirst,
    List.forall_mem_cons.2 ⟨hagain, List.forall_mem_singleton.2 hagain⟩⟩⟩

end RotationsFixture

open Rotations RotationFixture RotationsFixture in
/-- In the chain behind the cursor no object is skipped between the two moves that it is made of. -/
theorem overlapping_never_skips_both : ∃ chain, chain.Sublist both.finished ∧
    Leads chain crowd.rotationCursor both.db.rotationCursor ∧
    ∀ x, (∀ f ∈ chain, Undecayed f.run.atRotation x) →
      Passes (crowd.rotationCursor.getD (-1)) (both.db.rotationCursor.getD (-1))
        (chain.countP fun f => decide f.run.Wraps) x →
      ∃ f ∈ chain, x ∈ f.run.requested :=
  overlapping_never_skips both_run

open Rotations RotationFixture RotationsFixture in
/-- Object 550, behind the first 500, is requested by one of the runs. -/
theorem overlapping_bounded_staleness_both : ∃ f ∈ both.finished, 550 ∈ f.run.requested :=
  overlapping_bounded_staleness both_run both_undecayed (k := 1) (by decide) (by simp [both]) 550
    (by simp)

open Rotations RotationFixture RotationsFixture in
/-- A whole invocation behind these runs, on the tables that they left. -/
theorem main_among_rotations_both : ∃ more,
    OneRun externals (.start both.db (calmEnv kGpInterval "[]")) more ∧
    Rotations.OwnRun externals true both
      ⟨(main externals (.start both.db (calmEnv kGpInterval "[]"))).2.db, both.stages,
        both.finished ++ more⟩ ∧
    Rotations.Run both ⟨(main externals (.start both.db (calmEnv kGpInterval "[]"))).2.db,
      both.stages, both.finished ++ more⟩ :=
  main_among_rotations externals rfl rfl

end VitaleBackend
