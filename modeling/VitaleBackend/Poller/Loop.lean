import Mathlib.Logic.Relation
import VitaleBackend.Poller.StoreRecord

/-!
# The loop, one transaction at a time

The loop of `process_response` is a row of transactions, and other processes may commit between any
two of them. A `Stage` is where a process stands in the loop, and `Stage.advance` its next
transaction, in whatever that ends. A process that is alone goes through the stages exactly as the
loop does (`processRecords_alone`).
-/

namespace VitaleBackend

open Process

/-! ## One transaction -/

/-- What a transaction returns, and the tables after it. -/
def transact (call : Call) (db : Database)
    (body : Call → Database → Except Exn (α × Database)) : Outcome Exn α × Database :=
  match call.fault with
  | .stops => (.stopped, db)
  | .fails => (.error .db, db)
  | .none =>
    match body call db with
    | .ok (a, db') => (.ok a, db')
    | .error e => (.error e, db)

/-- A transaction uses up one call. -/
theorem transaction_run (body : Call → Database → Except Exn (α × Database)) (s : Session) :
    transaction body s =
      ((transact s.call s.db body).1, { s.next with db := (transact s.call s.db body).2 }) := by
  unfold transaction transact
  cases s.call.fault with
  | stops => rfl
  | fails => rfl
  | none =>
    dsimp only
    cases body s.call s.db <;> rfl

/-- What a process does next in the loop, with what it knows. -/
inductive Stage where
  /-- select the last snapshot for the first record -/
  | todo (records : List GpRecord)
  /-- insert the snapshot of a record -/
  | selected (record : GpRecord) (prev : Option Snapshot) (rest : List GpRecord)
  /-- insert the first of the events that are left of a pair -/
  | recording (noradCatId : Int) (prevSnapshotId newSnapshotId : Nat) (event : DetectedEvent)
      (events : List DetectedEvent) (rest : List GpRecord)

namespace Stage

/-- The loop is over. -/
def finished : Stage := .todo []

/-- The events that are left of a pair, and then the other records. -/
def record (noradCatId : Int) (prevSnapshotId newSnapshotId : Nat) (rest : List GpRecord) :
    List DetectedEvent → Stage
  | [] => .todo rest
  | event :: events => .recording noradCatId prevSnapshotId newSnapshotId event events rest

/-- The record was compared with the last snapshot. -/
def compared (r : GpRecord) (rest : List GpRecord) (prev : Option Snapshot) : Stage :=
  if prev.any (·.gpId = r.snapshot.gpId) then .todo rest else .selected r prev rest

/-- The snapshot was inserted: the rules run when there is a predecessor. -/
def inserted (r : GpRecord) (prev : Option Snapshot) (rest : List GpRecord) (newSnapshotId : Nat) :
    Stage :=
  match prev with
  | none => .todo rest
  | some p => record r.object.noradCatId p.id newSnapshotId rest
      (makeDefaultRuleRegistry.evaluateAll p r.snapshot)

/-- After an exception the loop goes on with the other records, and after a stop it does not. -/
def after (next : α → Stage) (rest : List GpRecord) : Outcome Exn α → Stage
  | .ok a => next a
  | .error _ => .todo rest
  | .stopped => finished

/-- The next transaction. -/
def advance (X : Externals) (call : Call) (db : Database) : Stage → Stage × Database
  | .todo [] => (finished, db)
  | .todo (r :: rest) =>
    let (outcome, db') := transact call db fun _ db =>
      .ok (Sql.getLastSnapshot X r.object.noradCatId db, db)
    (after (compared r rest) rest outcome, db')
  | .selected r prev rest =>
    let (outcome, db') := transact call db fun call db => Sql.insertSnapshot X call r.snapshot db
    (after (inserted r prev rest) rest outcome, db')
  | .recording n p q event events rest =>
    let (outcome, db') := transact call db fun call db =>
      ((), ·) <$> Sql.insertEvent call n event (some p) (some q) db
    (after (fun _ => record n p q rest events) rest outcome, db')

end Stage

/-! ## A process that is alone -/

/-- A process that is alone makes its next call. -/
inductive AloneStep (X : Externals) (env : Nat → Call) :
    Nat × Stage × Database → Nat × Stage × Database → Prop
  | call (used : Nat) (stage : Stage) (db : Database) :
      AloneStep X env (used, stage, db) (used + 1, stage.advance X (env used) db)

/-- A process that is alone makes some calls. -/
abbrev Alone (X : Externals) (env : Nat → Call) := Relation.ReflTransGen (AloneStep X env)

/-- From a stage on, a process that is alone does what a part of the loop does, up to the other
records. -/
def StandsFor (X : Externals) (rest : List GpRecord) (stage : Stage) (job : Job Unit) : Prop :=
  ∀ s, (job s).2.env = s.env ∧ Alone X s.env (s.used, stage, s.db)
    ((job s).2.used, Stage.after (fun _ => .todo rest) rest (job s).1, (job s).2.db)

section
variable {X : Externals} {rest rest' : List GpRecord} {stage : Stage} {job job' : Job Unit}

/-- Without anything to do a process stays where it is. -/
theorem StandsFor.pure : StandsFor X rest (.todo rest) (Pure.pure ()) := fun _ => ⟨rfl, .refl⟩

/-- The process's own variables do not count. -/
theorem StandsFor.modify_bind {f : Session → Session}
    (hf : ∀ s, (f s).db = s.db ∧ (f s).env = s.env ∧ (f s).used = s.used)
    (h : StandsFor X rest stage job) : StandsFor X rest stage (Proc.modify f >>= fun _ => job) := by
  intro s
  obtain ⟨hdb, henv, hused⟩ := hf s
  have hjob := h (f s)
  rwa [hdb, henv, hused] at hjob

/-- A stage is followed by its transaction and by what follows on what that returns. -/
theorem StandsFor.transaction_bind {body : Call → Database → Except Exn (α × Database)}
    {next : α → Stage} {f : α → Job Unit}
    (hstage : ∀ call db, stage.advance X call db =
      (Stage.after next rest (transact call db body).1, (transact call db body).2))
    (h : ∀ a, StandsFor X rest (next a) (f a)) :
    StandsFor X rest stage (transaction body >>= f) := by
  intro s
  have hcall : AloneStep X s.env (s.used, stage, s.db)
      (s.used + 1, stage.advance X (s.env s.used) s.db) := .call s.used stage s.db
  rw [hstage] at hcall
  rw [Proc.bind_run, transaction_run]
  unfold Session.call
  cases ho : (transact (s.env s.used) s.db body).1 with
  | error e =>
    rw [ho] at hcall
    exact ⟨rfl, .single hcall⟩
  | stopped =>
    rw [ho] at hcall
    exact ⟨rfl, .single hcall⟩
  | ok a =>
    rw [ho] at hcall
    obtain ⟨henv, halone⟩ := h a { s.next with db := (transact (s.env s.used) s.db body).2 }
    exact ⟨henv, .head hcall halone⟩

/-- The handler of the loop swallows exceptions. -/
theorem StandsFor.attempt {handler : Exn → Job Unit}
    (hhandler : ∀ e s, ((handler e) s).1 = .ok () ∧ ((handler e) s).2.db = s.db ∧
      ((handler e) s).2.env = s.env ∧ ((handler e) s).2.used = s.used)
    (h : StandsFor X rest stage job) : StandsFor X rest stage (Proc.attempt job handler) := by
  intro s
  obtain ⟨henv, halone⟩ := h s
  rw [Proc.attempt_run]
  rcases hjob : job s with ⟨_ | e | _, s'⟩ <;> rw [hjob] at henv halone
  · exact ⟨henv, halone⟩
  · obtain ⟨hok, hdb, henv', hused⟩ := hhandler e s'
    refine ⟨henv'.trans henv, ?_⟩
    rw [hok, hdb, hused]
    exact halone
  · exact ⟨henv, halone⟩

/-- One turn of the loop and then the others. -/
theorem StandsFor.bind (hjob : Proc.NoThrow job) (h : StandsFor X rest stage job)
    (h' : StandsFor X rest' (.todo rest) job') :
    StandsFor X rest' stage (job >>= fun _ => job') := by
  intro s
  obtain ⟨henv, halone⟩ := h s
  rw [Proc.bind_run]
  rcases hs : job s with ⟨_ | e | _, s'⟩ <;> rw [hs] at henv halone
  · obtain ⟨henv', halone'⟩ := h' s'
    refine ⟨henv'.trans henv, halone.trans ?_⟩
    rwa [show s'.env = s.env from henv] at halone'
  · exact absurd (congrArg Prod.fst hs) (hjob s e)
  · exact ⟨henv, halone⟩

end

section
variable (X : Externals)

/-- The calls that record events stand for the loop over them, by induction on the events. -/
theorem insertEvents_standsFor (n : Int) (p q : Nat) (rest : List GpRecord)
    (events : List DetectedEvent) :
    StandsFor X rest (Stage.record n p q rest events) (GpPoller.insertEvents n p q events) := by
  induction events with
  | nil => exact .pure
  | cons event events ih => exact .transaction_bind (fun _ _ => rfl) fun _ => ih

/-- Recording a pair is this loop, or nothing without a predecessor. -/
theorem recordPair_standsFor (r : GpRecord) (prev : Option Snapshot) (q : Nat)
    (rest : List GpRecord) :
    StandsFor X rest (Stage.inserted r prev rest q) (GpPoller.recordPair r prev q) := by
  cases prev with
  | none => exact .pure
  | some p => exact insertEvents_standsFor X _ _ _ _ _

/-- Storing a record is its select, its insert and this loop. -/
theorem storeRecord_standsFor (r : GpRecord) (rest : List GpRecord) :
    StandsFor X rest (.todo (r :: rest)) (GpPoller.storeRecord X r) := by
  unfold GpPoller.storeRecord DbWriter.getLastSnapshot DbWriter.insertSnapshot query
  refine .transaction_bind (fun _ _ => rfl) fun prev => ?_
  unfold Stage.compared
  split
  · exact StandsFor.modify_bind (fun _ => by exact ⟨rfl, rfl, rfl⟩) .pure
  · refine .transaction_bind (fun _ _ => rfl) fun q => ?_
    exact .modify_bind (fun _ => by exact ⟨rfl, rfl, rfl⟩) (recordPair_standsFor X r prev q rest)

/-- No exception leaves a turn of the loop. -/
theorem processRecord_noThrow (r : GpRecord) : Proc.NoThrow (GpPoller.processRecord X r) :=
  .attempt fun _ => (Proc.NoThrow.modify _).bind fun _ => .modify _

/-- The turn of a record is this, with the error caught: whatever fails, the process goes on with
the other records. -/
theorem processRecord_standsFor (r : GpRecord) (rest : List GpRecord) :
    StandsFor X rest (.todo (r :: rest)) (GpPoller.processRecord X r) :=
  (storeRecord_standsFor X r rest).attempt fun _ _ => ⟨rfl, rfl, rfl, rfl⟩

/-- A process that is alone does what the loop does: it makes the same calls, and leaves the same
tables. -/
theorem processRecords_alone (records : List GpRecord) (s : Session) :
    Alone X s.env (s.used, .todo records, s.db)
      ((Proc.forEach (GpPoller.processRecord X) records s).2.used, Stage.finished,
        (Proc.forEach (GpPoller.processRecord X) records s).2.db) := by
  have hstands : StandsFor X [] (.todo records)
      (Proc.forEach (GpPoller.processRecord X) records) := by
    induction records with
    | nil => exact .pure
    | cons r records ih =>
      exact .bind (processRecord_noThrow X r) (processRecord_standsFor X r records) ih
  obtain ⟨-, halone⟩ := hstands s
  rcases hloop : Proc.forEach (GpPoller.processRecord X) records s with ⟨_ | e | _, s'⟩ <;>
    rw [hloop] at halone <;> exact halone

end

end VitaleBackend
