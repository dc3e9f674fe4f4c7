import VitaleBackend.Poller.Frames
import VitaleBackend.Poller.Logged

/-!
# What jobs print while the tables change

The frame conditions of jobs that print. A relation between the tables before and after and what is
printed (`Prints`) holds of a whole run when it holds of what the run does to the tables, and lets
the other lines be printed while the tables stay as they are (`LogFrame`).
-/

namespace VitaleBackend

open Process

namespace Message

/-- The lines about events. -/
def event? : Message → Option Message
  | firedObject eventTypeCode => some (firedObject eventTypeCode)
  | fired noradCatId eventTypeCode => some (fired noradCatId eventTypeCode)
  | _ => none

/-- The lines about the cursor. -/
def cursor? : Message → Option Int
  | cursorAdvanced newCursor => some newCursor
  | _ => none

/-- The lines about records that failed. -/
def failed? : Message → Option Int
  | recordFailed noradCatId _ => some noradCatId
  | _ => none

/-- The summaries of GP responses. -/
def summary? : Message → Option (ℕ × Counts)
  | processed records counts => some (records, counts)
  | _ => none

/-- A line about something else. -/
structure IsOther (m : Message) : Prop where
  event : m.event? = none
  cursor : m.cursor? = none
  failed : m.failed? = none
  summary : m.summary? = none

end Message

/-! ## Steps that no such line is about -/

/-- The lines of a batch that went through. -/
theorem upserted_run (n : ℕ) (events : List DetectedEvent) (p : Session × List Message) :
    ((do
      Logged.cout (.upserted n)
      Proc.forEach (fun event : DetectedEvent => Logged.cout (.firedObject event.eventTypeCode))
        events : Logged Unit) p).2 =
      (p.1, p.2 ++ .upserted n :: events.map fun e => .firedObject e.eventTypeCode) := by
  refine (congrArg Prod.snd (Proc.forEach_tell_run _ events (p.1, p.2 ++ [_]))).trans ?_
  rw [List.append_assoc]
  rfl

/-- What a job prints is in a relation to the tables before and after it. -/
abbrev Prints (T : Database → Database → List Message → Prop) :
    Session × List Message → Session × List Message → Prop :=
  Proc.Wrote fun s t => T s.db t.db

/-- A relation that lets the tables stay as they are, and the other lines be printed then, and lets
a run be stamped. -/
structure LogFrame (T : Database → Database → List Message → Prop) : Prop where
  refl : ∀ db, T db db []
  other : ∀ m : Message, m.IsOther → ∀ db, T db db [m]
  stamp : ∀ pollerName now db, T db (Sql.markPollerRun pollerName now db) []

section
variable {T : Database → Database → List Message → Prop}

/-- A job without messages that leaves the tables alone, and may send requests. -/
theorem LogFrame.silent (hT : LogFrame T) {m : Job α}
    (h : Proc.Within (OnRun (KeepsDb id)) m) : Proc.Within (Prints T) (Proc.silent m) :=
  h.silent fun s t hrun => by
    rw [show t.db = s.db from hrun.db]
    exact hT.refl s.db

/-- A job without messages that leaves the tables alone and sends none. -/
theorem LogFrame.silent_onDb (hT : LogFrame T) {m : Job α}
    (h : Proc.Within (OnDb (KeepsDb id)) m) : Proc.Within (Prints T) (Proc.silent m) :=
  hT.silent (onRun h)

/-- A message that tells of no row. -/
theorem LogFrame.cout (hT : LogFrame T) {m : Message} (h : m.IsOther) :
    Proc.Within (Prints T) (Logged.cout m) :=
  .tell fun s => hT.other m h s.db

/-- A job that is only done when its poller is due, with the message that it is not. -/
theorem LogFrame.whenDue (hT : LogFrame T) {job : Logged Unit} (h : Proc.Within (Prints T) job)
    (due : Bool) {notDue : Message} (hnotDue : notDue.IsOther) :
    Proc.Within (Prints T) (Logged.whenDue due job notDue) := by
  cases due with
  | false => exact hT.cout hnotDue
  | true => exact h

/-- A stamp, when one is due. -/
theorem LogFrame.markPollerRun (hT : LogFrame T) (due : Bool) (pollerName : String) :
    Proc.Within (Prints T)
      (Proc.silent (VitaleBackend.whenDue due (DbWriter.markPollerRun pollerName))) := by
  have hmark : Proc.Within (fun s t => T s.db t.db []) (DbWriter.markPollerRun pollerName) :=
    transaction_within (fun s => hT.refl s.db) fun s a db h => by
      cases h
      exact hT.stamp pollerName s.call.now s.db
  cases due with
  | false => exact hT.silent (.pure _)
  | true => exact hmark.silent fun _ _ => id

/-- A transaction with the lines that follow its commit: without a commit the tables are as they
were, and nothing is printed. -/
theorem LogFrame.transaction_bind (hT : LogFrame T)
    {body : Call → Database → Except Exn (α × Database)} {k : α → Logged β}
    (h : ∀ (s : Session) a db l, body s.call s.db = .ok (a, db) →
      Prints T (s, l) (k a ({ s.next with db := db }, l)).2) :
    Proc.Within (Prints T) (Proc.silent (transaction body) >>= k) := by
  refine .silent_bind (fun s a t l hrun => ?_) fun s hfail => ?_
  · obtain ⟨-, db, hbody, rfl⟩ := transaction_eq_ok.1 hrun
    exact h s a db l hbody
  · rcases transaction_cases body s with ⟨-, a, db, -, hrun⟩ | ⟨-, e, hrun⟩ | ⟨-, hrun⟩
    · exact absurd (congrArg Prod.fst hrun) (hfail a)
    · rw [hrun]
      exact hT.refl s.db
    · rw [hrun]
      exact hT.refl s.db

variable [IsTrans (Session × List Message) (Prints T)]

/-- A message on `cerr`, which is put on record for the process as well. -/
theorem LogFrame.cerr (hT : LogFrame T) {m : Message} (h : m.IsOther) :
    Proc.Within (Prints T) (Logged.cerr m) :=
  (hT.silent_onDb (logError_onDb _)).bind fun _ => hT.cout h

/-- What a SATCAT response prints, when a batch that goes through is in the relation to its
lines. -/
theorem LogFrame.satcatProcessResponse (hT : LogFrame T) {X : Externals}
    (hbatch : ∀ call n objs events db db',
      Sql.upsertObjectsFromSatcat X makeDefaultObjectRuleRegistry call objs db = .ok (events, db') →
        T db db' (.upserted n :: events.map fun e => .firedObject e.eventTypeCode))
    (body : String) : Proc.Within (Prints T) (Logged.satcatProcessResponse X body) := by
  refine (hT.silent (.ofExcept _)).bind fun objs =>
    (hT.cout ⟨rfl, rfl, rfl, rfl⟩).bind fun _ => ?_
  refine Proc.Within.attempt ?_ fun e => hT.cerr ⟨rfl, rfl, rfl, rfl⟩
  unfold DbWriter.upsertObjectsFromSatcat
  split
  · refine .silent_bind (fun s events t l h => ?_) fun s h => absurd rfl (h [])
    cases h
    rw [upserted_run]
    exact ⟨_, rfl, hbatch s.call objs.length [] [] s.db s.db rfl⟩
  · refine hT.transaction_bind fun s events db l hbody => ?_
    rw [upserted_run]
    exact ⟨_, rfl, hbatch s.call objs.length objs events s.db db hbody⟩

variable [Std.Refl (Prints T)]

/-- The login with its messages, which tell of no row. -/
theorem LogFrame.ensureLoggedIn (hT : LogFrame T) (p : LoggedPoller) :
    Proc.Within (Prints T) p.ensureLoggedIn := by
  refine (hT.silent (.read _)).bind fun l => ?_
  split
  · exact .pure _
  · refine (hT.cout ⟨rfl, rfl, rfl, rfl⟩).bind fun _ => (hT.silent_onDb login_onDb).bind fun r => ?_
    cases r with
    | error text => exact (hT.cerr ⟨rfl, rfl, rfl, rfl⟩).bind fun _ => .pure _
    | ok u => exact (hT.cout ⟨rfl, rfl, rfl, rfl⟩).bind fun _ => .pure _

/-- Up to the response only other lines are printed. -/
theorem LogFrame.fetch (hT : LogFrame T) (p : LoggedPoller) : Proc.Within (Prints T) p.fetch := by
  refine (hT.ensureLoggedIn p).bind fun l => ?_
  split
  · refine (hT.silent (.ofExcept _)).bind fun url => (hT.cout ⟨rfl, rfl, rfl, rfl⟩).bind fun _ => ?_
    refine (hT.silent (get_onRun url)).bind fun r => ?_
    cases r with
    | error text => exact (hT.cerr ⟨rfl, rfl, rfl, rfl⟩).bind fun _ => .pure _
    | ok body => exact (hT.cout ⟨rfl, rfl, rfl, rfl⟩).bind fun _ => .pure _
  · exact .pure _

/-- A run of a poller is within the frame when the handler of its response is. -/
theorem LogFrame.run (hT : LogFrame T) {p : LoggedPoller}
    (h : ∀ body, Proc.Within (Prints T) (p.processResponse body)) :
    Proc.Within (Prints T) p.run := by
  refine (hT.fetch p).bind fun r => ?_
  cases r with
  | none => exact .pure _
  | some body => exact (h body).attempt fun e => hT.cerr ⟨rfl, rfl, rfl, rfl⟩

end

end VitaleBackend
