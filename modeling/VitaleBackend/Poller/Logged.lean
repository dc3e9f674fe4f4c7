import VitaleBackend.Lib.Journal
import VitaleBackend.Poller.Pollers

/-!
# What the poller binary prints

A `Message` is one statement that writes to `std::cout` or `std::cerr`, and all of them end their
line. The functions of the namespace `Logged` are those of the pollers and of `main` with their
messages as a journal; without it they are the same (`Logged.main_erases`).
-/

namespace VitaleBackend

open Process

/-- The streams that the poller prints to. -/
inductive Channel where
  | cout | cerr
  deriving Repr, DecidableEq

/-- What is printed, with the values that are put into it. -/
inductive Message where
  | separator
  | noCredentials
  | loggingIn (name : String)
  | loginFailed (name error : String)
  | authenticated (name : String)
  | sending (name description : String)
  | fetchFailed (name error : String)
  | received (name : String) (bytes : Nat)
  | processingFailed (name what : String)
  | parsed (records : Nat)
  | upserted (records : Nat)
  | firedObject (eventTypeCode : String)
  | batchFailed (what : String)
  | requested (hot rotation records : Nat)
  | fired (noradCatId : Int) (eventTypeCode : String)
  | recordFailed (noradCatId : Int) (what : String)
  | processed (records : Nat) (counts : Counts)
  | cursorAdvanced (newCursor : Int)
  | cursorUnchanged
  | runningSatcat
  | satcatNotDue
  | gpBatch (hotTargets rotationTargets : List Int)
  | runningGp
  | gpNotDue
  | fatal (what : String)
  deriving Repr, DecidableEq

namespace Message

/-- Errors go to `cerr`, and everything else to `cout`. -/
def channel : Message → Channel
  | noCredentials | loginFailed .. | fetchFailed .. | processingFailed .. | batchFailed ..
  | recordFailed .. | fatal .. => .cerr
  | _ => .cout

/-- The end of the line about a batch. -/
def spanning : List Int → String
  | [] => ""
  | first :: rest => " spanning norad_cat_id " ++ toString first ++ ".." ++
      toString ((first :: rest).getLast (List.cons_ne_nil _ _))

/-- The text of the message, without the end of its line. -/
def line : Message → String
  | separator => "=================="
  | noCredentials => "SPACETRACK_IDENTITY and SPACETRACK_PASSWORD must be set"
  | loggingIn name => name ++ " poller: not yet authenticated, logging in to Space-Track..."
  | loginFailed name error => name ++ " poller: login failed: " ++ error
  | authenticated name => name ++ " poller: authenticated"
  | sending name description => name ++ " poller: sending request for " ++ description
  | fetchFailed name error => name ++ " poller: fetch failed: " ++ error
  | received name bytes => name ++ " poller: received response (" ++ toString bytes ++ " bytes)"
  | processingFailed name what => name ++ " poller: processing response failed: " ++ what
  | parsed records =>
    "satcat poller: parsed " ++ toString records ++ " record(s), diffing and upserting..."
  | upserted records => "satcat poller: upserted " ++ toString records ++ " object(s)"
  | firedObject eventTypeCode => "  -> fired event: " ++ eventTypeCode
  | batchFailed what => "satcat poller: batch upsert failed, nothing committed: " ++ what
  | requested hot rotation records =>
    "gp poller: requested " ++ toString (hot + rotation) ++ " target(s) (" ++ toString hot ++
      " hot, " ++ toString rotation ++ " rotation), received " ++ toString records ++
      " record(s) from Space-Track"
  | fired noradCatId eventTypeCode =>
    "gp poller: norad " ++ toString noradCatId ++ " -> fired event: " ++ eventTypeCode
  | recordFailed noradCatId what =>
    "gp poller: failed to process norad " ++ toString noradCatId ++ ": " ++ what
  | processed records counts =>
    "gp poller: processed " ++ toString records ++ " record(s): " ++ toString counts.inserted ++
      " inserted, " ++ toString counts.unchanged ++ " unchanged, " ++ toString counts.error ++
      " error(s)"
  | cursorAdvanced newCursor =>
    "gp poller: rotation cursor advanced to norad " ++ toString newCursor
  | cursorUnchanged => "gp poller: no rotation targets this run, cursor unchanged"
  | runningSatcat => "[scheduler] running SatcatPoller"
  | satcatNotDue => "[scheduler] SatcatPoller not due yet"
  | gpBatch hotTargets rotationTargets =>
    "[scheduler] GpPoller batch: " ++ toString hotTargets.length ++ " hot object(s), " ++
      toString rotationTargets.length ++ " rotation object(s)" ++ spanning rotationTargets
  | runningGp => "[scheduler] running GpPoller"
  | gpNotDue => "[scheduler] GpPoller not due yet"
  | fatal what => "poller: fatal error: " ++ what

end Message

/-- A job that prints. -/
abbrev Logged (α : Type) := Proc (Session × List Message) Exn α

namespace Logged

/-- `std::cout << m`. -/
def cout (m : Message) : Logged Unit := Proc.tell m

/-- `std::cerr << m`. The unlogged model has this as `logError`. -/
def cerr (m : Message) : Logged Unit := do
  Proc.silent (logError m.line)
  Proc.tell m

/-- Without the journal the message is the log of an error. -/
theorem cerr_erases (m : Message) : Proc.Erases (cerr m) (logError m.line) :=
  (Proc.Erases.silent _).bind_tell m

end Logged

/-- A poller with its messages. -/
structure LoggedPoller where
  poller : Poller
  requestDescription : String
  processResponse : String → Logged Unit
  erases : ∀ body, Proc.Erases (processResponse body) (poller.processResponse body)

namespace LoggedPoller

/-- `ensure_logged_in`, with what it prints. -/
def ensureLoggedIn (p : LoggedPoller) : Logged Bool := do
  if ← Proc.silent (Proc.read (·.loggedIn)) then return true
  else do
    Logged.cout (.loggingIn p.poller.name)
    match ← Proc.silent login with
    | .error text => do
      Logged.cerr (.loginFailed p.poller.name text)
      return false
    | .ok () => do
      Logged.cout (.authenticated p.poller.name)
      return true

/-- The first half of `run`, up to the body of the response. -/
def fetch (p : LoggedPoller) : Logged (Option String) := do
  if ← p.ensureLoggedIn then
    let url ← Proc.silent (Proc.ofExcept p.poller.buildQueryUrl)
    Logged.cout (.sending p.poller.name p.requestDescription)
    match ← Proc.silent (get url) with
    | .error text => do
      Logged.cerr (.fetchFailed p.poller.name text)
      return none
    | .ok body => do
      Logged.cout (.received p.poller.name body.utf8ByteSize)
      return some body
  else return none

/-- The second half, with its `try` block. -/
def handle (p : LoggedPoller) (body : String) : Logged Unit :=
  Proc.attempt (p.processResponse body) fun e =>
    Logged.cerr (.processingFailed p.poller.name e.what)

/-- `run`, with what it prints. -/
def run (p : LoggedPoller) : Logged Unit := do
  match ← p.fetch with
  | none => pure ()
  | some body => p.handle body

/-- Without its messages `ensure_logged_in` is the one of the poller. -/
theorem ensureLoggedIn_erases (p : LoggedPoller) :
    Proc.Erases p.ensureLoggedIn p.poller.ensureLoggedIn := by
  refine (Proc.Erases.silent _).bind fun loggedIn => ?_
  split
  · exact .pure true
  · refine .tell_bind _ ((Proc.Erases.silent _).bind fun response => ?_)
    cases response with
    | error text => exact (Logged.cerr_erases _).bind fun _ => .pure false
    | ok u => exact .tell_bind _ (.pure true)

/-- Without its messages the request is the one of the poller. -/
theorem fetch_erases (p : LoggedPoller) : Proc.Erases p.fetch p.poller.fetch := by
  refine p.ensureLoggedIn_erases.bind fun loggedIn => ?_
  split
  · refine (Proc.Erases.silent _).bind fun url => .tell_bind _ ?_
    refine (Proc.Erases.silent _).bind fun response => ?_
    cases response with
    | error text => exact (Logged.cerr_erases _).bind fun _ => .pure none
    | ok body => exact .tell_bind _ (.pure (some body))
  · exact .pure none

/-- Without its messages the whole run is the one of the poller. -/
theorem run_erases (p : LoggedPoller) : Proc.Erases p.run p.poller.run := by
  refine p.fetch_erases.bind fun response => ?_
  cases response with
  | none => exact .pure ()
  | some body => exact (p.erases body).attempt fun e => Logged.cerr_erases _

end LoggedPoller

namespace Logged

/-! ## `SatcatPoller` -/

/-- `SatcatPoller::process_response`, with what it prints. -/
def satcatProcessResponse (X : Externals) (jsonBody : String) : Logged Unit := do
  let records ← Proc.silent (Proc.ofExcept (parseSatcatResponse X jsonBody))
  cout (.parsed records.length)
  Proc.attempt
    (do
      let events ← Proc.silent
        (DbWriter.upsertObjectsFromSatcat X makeDefaultObjectRuleRegistry records)
      cout (.upserted records.length)
      Proc.forEach (fun event : DetectedEvent => cout (.firedObject event.eventTypeCode)) events)
    fun e => cerr (.batchFailed e.what)

/-- Messages erase to nothing. -/
theorem forEach_cout_erases (f : α → Message) (as : List α) :
    Proc.Erases (Proc.forEach (fun a => cout (f a)) as) (pure () : Job Unit) :=
  fun p => by simp [cout, Proc.forEach_tell_run f as p]

/-- Without its messages it is the one of the poller. -/
theorem satcatProcessResponse_erases (X : Externals) (jsonBody : String) :
    Proc.Erases (satcatProcessResponse X jsonBody) (SatcatPoller.processResponse X jsonBody) := by
  refine (Proc.Erases.silent _).bind fun records => .tell_bind _ (.attempt ?_ fun e => ?_)
  · exact (Proc.Erases.silent _).bind fun events => .tell_bind _ (forEach_cout_erases _ _)
  · exact cerr_erases _

/-- The satcat poller with its messages. -/
def satcatPoller (X : Externals) : LoggedPoller where
  poller := VitaleBackend.satcatPoller X
  requestDescription := "full active catalog"
  processResponse := satcatProcessResponse X
  erases := satcatProcessResponse_erases X

/-! ## `GpPoller` -/

/-- The events of a pair, each with its line. -/
def insertEvents (noradCatId : Int) (prevSnapshotId newSnapshotId : Nat) :
    List DetectedEvent → Logged Unit :=
  Proc.forEach fun event => do
    Proc.silent (DbWriter.insertEvent noradCatId event (some prevSnapshotId) newSnapshotId)
    cout (.fired noradCatId event.eventTypeCode)

/-- What is recorded of a new snapshot: the events against its predecessor, if it has one. -/
def recordPair (record : GpRecord) (prev : Option Snapshot) (newSnapshotId : Nat) : Logged Unit :=
  match prev with
  | none => pure ()
  | some p =>
    insertEvents record.object.noradCatId p.id newSnapshotId
      (makeDefaultRuleRegistry.evaluateAll p record.snapshot)

/-- The body of the `try` block for one record. -/
def storeRecord (X : Externals) (record : GpRecord) : Logged Unit := do
  let prev ← Proc.silent (DbWriter.getLastSnapshot X record.object.noradCatId)
  if prev.any (·.gpId = record.snapshot.gpId) then Proc.silent GpPoller.countUnchanged
  else do
    let newSnapshotId ← Proc.silent (DbWriter.insertSnapshot X record.snapshot)
    Proc.silent GpPoller.countInserted
    recordPair record prev newSnapshotId

/-- One record, whose error is printed and counted. -/
def processRecord (X : Externals) (record : GpRecord) : Logged Unit :=
  Proc.attempt (storeRecord X record) fun e => do
    Proc.silent GpPoller.countError
    cerr (.recordFailed record.object.noradCatId e.what)

/-- The move of the cursor, with its line. -/
def advanceCursor (rotationTargetIds : List Int) : Logged Unit :=
  match rotationTargetIds.getLast? with
  | some newCursor => do
    Proc.silent (DbWriter.advanceGpRotationCursor newCursor)
    cout (.cursorAdvanced newCursor)
  | none => cout .cursorUnchanged

/-- The line that sums the loop up. -/
def summary (records : Nat) : Logged Unit := do
  let counts ← Proc.silent (Proc.read (·.counts))
  cout (.processed records counts)

/-- `GpPoller::process_response`, with what it prints. -/
def gpProcessResponse (X : Externals) (hotTargetIds rotationTargetIds : List Int)
    (jsonBody : String) : Logged Unit := do
  let records ← Proc.silent (Proc.ofExcept (parseGpResponse X jsonBody))
  cout (.requested hotTargetIds.length rotationTargetIds.length records.length)
  Proc.silent (Proc.modify fun s => { s with counts := {} })
  Proc.forEach (processRecord X) records
  summary records.length
  advanceCursor rotationTargetIds

/-- Without their lines the events of a pair are recorded as by the poller. -/
theorem insertEvents_erases (noradCatId : Int) (prevSnapshotId newSnapshotId : Nat)
    (events : List DetectedEvent) :
    Proc.Erases (insertEvents noradCatId prevSnapshotId newSnapshotId events)
      (GpPoller.insertEvents noradCatId prevSnapshotId newSnapshotId events) :=
  .forEach (fun _ => (Proc.Erases.silent _).bind_tell _) events

/-- Without its lines a record is stored as by the poller. -/
theorem storeRecord_erases (X : Externals) (record : GpRecord) :
    Proc.Erases (storeRecord X record) (GpPoller.storeRecord X record) := by
  refine (Proc.Erases.silent _).bind fun prev => ?_
  split
  · exact .silent _
  · refine (Proc.Erases.silent _).bind fun id => (Proc.Erases.silent _).bind fun _ => ?_
    cases prev with
    | none => exact .pure ()
    | some p => exact insertEvents_erases _ _ _ _

/-- Without its lines the turn of a record is the one of the poller. -/
theorem processRecord_erases (X : Externals) (record : GpRecord) :
    Proc.Erases (processRecord X record) (GpPoller.processRecord X record) :=
  (storeRecord_erases X record).attempt fun _ =>
    (Proc.Erases.silent _).bind fun _ => cerr_erases _

/-- Without its line the cursor is moved as by the poller. -/
theorem advanceCursor_erases (rotationTargetIds : List Int) :
    Proc.Erases (advanceCursor rotationTargetIds) (GpPoller.advanceCursor rotationTargetIds) := by
  unfold advanceCursor GpPoller.advanceCursor
  cases rotationTargetIds.getLast? with
  | none => exact .tell _
  | some newCursor => exact (Proc.Erases.silent _).bind_tell _

/-- Without its lines a response is handled as by the poller. -/
theorem gpProcessResponse_erases (X : Externals) (hotTargetIds rotationTargetIds : List Int)
    (jsonBody : String) :
    Proc.Erases (gpProcessResponse X hotTargetIds rotationTargetIds jsonBody)
      (GpPoller.processResponse X rotationTargetIds jsonBody) := by
  refine (Proc.Erases.silent _).bind fun records => .tell_bind _ ?_
  refine (Proc.Erases.silent _).bind fun _ => ?_
  refine (Proc.Erases.forEach (processRecord_erases X) records).bind fun _ => ?_
  exact fun p => advanceCursor_erases rotationTargetIds (p.1, p.2 ++ [_])

/-- The GP poller with its messages. -/
def gpPoller (X : Externals) (hotTargetIds rotationTargetIds : List Int) : LoggedPoller where
  poller := VitaleBackend.gpPoller X hotTargetIds rotationTargetIds
  requestDescription := toString (hotTargetIds.length + rotationTargetIds.length) ++
    " object(s) (" ++ toString hotTargetIds.length ++ " hot, " ++
    toString rotationTargetIds.length ++ " rotation)"
  processResponse := gpProcessResponse X hotTargetIds rotationTargetIds
  erases := gpProcessResponse_erases X hotTargetIds rotationTargetIds

/-! ## `main` -/

/-- The part of `main` about the GP poller. -/
def runGp (X : Externals) : Logged Unit := do
  let hotTargets ← Proc.silent (DbWriter.topGpHotTargets kGpMaxHotSlots)
  let rotationTargets ← Proc.silent
    (DbWriter.nextGpRotationBatch (kGpBatchSize - hotTargets.length) hotTargets)
  cout (.gpBatch hotTargets rotationTargets)
  cout .runningGp
  (gpPoller X hotTargets rotationTargets).run

/-- `if (due) { job; } else { … not due yet }`. -/
def whenDue (due : Bool) (job : Logged Unit) (notDue : Message) : Logged Unit :=
  if due then job else cout notDue

/-- The part of `main` about the satcat poller. -/
def runSatcat (X : Externals) : Logged Unit := do
  cout .runningSatcat
  (satcatPoller X).run

/-- The body of the `try` block of `main`. -/
def runPollers (X : Externals) : Logged Unit := do
  let satcatDue ← Proc.silent (DbWriter.isPollerDue "satcat" kSatcatInterval)
  let gpDue ← Proc.silent (DbWriter.isPollerDue "gp" kGpInterval)
  Proc.silent (VitaleBackend.whenDue satcatDue (DbWriter.markPollerRun "satcat"))
  Proc.silent (VitaleBackend.whenDue gpDue (DbWriter.markPollerRun "gp"))
  whenDue satcatDue (runSatcat X) .satcatNotDue
  whenDue gpDue (runGp X) .gpNotDue

/-- What `getenv` answers, and what comes of the connection to a database. -/
structure Environment where
  identity : Option String
  password : Option String
  databaseUrl : Option String
  connect : String → Except Exn Unit

/-- `database_url_from_env`. -/
def databaseUrlFromEnv (env : Environment) : Except Exn String :=
  match env.databaseUrl with
  | none | some "" => .error (.runtimeError "DATABASE_URL environment variable is not set")
  | some url => .ok url

/-- `make_connection`. -/
def makeConnection (env : Environment) : Except Exn Unit := databaseUrlFromEnv env >>= env.connect

/-- `main`, with its exit status. -/
def main (X : Externals) (env : Environment) : Logged Nat := do
  cout .separator
  if env.identity.isNone ∨ env.password.isNone then
    cerr .noCredentials
    cout .separator
    return 1
  else
    let status ← Proc.attempt
      (do
        Proc.silent (Proc.ofExcept (makeConnection env))
        runPollers X
        return 0)
      fun e => do
        cerr (.fatal e.what)
        return 1
    cout .separator
    return status

/-- Without its messages the GP part is the one of `main`. -/
theorem runGp_erases (X : Externals) : Proc.Erases (runGp X) (VitaleBackend.runGp X) :=
  (Proc.Erases.silent _).bind fun _ => (Proc.Erases.silent _).bind fun _ =>
    .tell_bind _ (.tell_bind _ (LoggedPoller.run_erases _))

/-- What is only done when a poller is due erases to what is only done then. -/
theorem whenDue_erases (due : Bool) {job' : Logged Unit} {job : Job Unit}
    (h : Proc.Erases job' job) (notDue : Message) :
    Proc.Erases (whenDue due job' notDue) (VitaleBackend.whenDue due job) := by
  cases due with
  | false => exact .tell notDue
  | true => exact h

/-- Without their messages both pollers run as in `main`. -/
theorem runPollers_erases (X : Externals) :
    Proc.Erases (runPollers X) (VitaleBackend.runPollers X) := by
  refine (Proc.Erases.silent _).bind fun satcatDue => (Proc.Erases.silent _).bind fun gpDue => ?_
  refine (Proc.Erases.silent _).bind fun _ => (Proc.Erases.silent _).bind fun _ => ?_
  have hsatcat : Proc.Erases (runSatcat X) (VitaleBackend.satcatPoller X).run :=
    .tell_bind _ (LoggedPoller.run_erases _)
  exact (whenDue_erases satcatDue hsatcat _).bind fun _ => whenDue_erases gpDue (runGp_erases X) _

/-- A process is started as it has to be. -/
structure Environment.Ready (env : Environment) : Prop where
  identity : env.identity.isSome = true
  password : env.password.isSome = true
  connects : makeConnection env = .ok ()

/-- What is printed changes nothing: a process that is started as it has to be does what `main` does
without its messages. -/
theorem main_erases (X : Externals) {env : Environment} (hready : env.Ready) :
    Proc.Erases (main X env >>= fun _ => pure ()) (VitaleBackend.main X) := by
  have hcredentials : ¬ (env.identity.isNone ∨ env.password.isNone) := by
    rw [Option.isNone_eq_false_iff.2 hready.identity, Option.isNone_eq_false_iff.2 hready.password]
    simp
  unfold main
  rw [bind_assoc, if_neg hcredentials, hready.connects]
  refine .tell_bind _ ?_
  simp only [bind_assoc, pure_bind]
  show Proc.Erases (Proc.attempt (runPollers X >>= fun _ => pure 0)
    (fun e => cerr (.fatal e.what) >>= fun _ => pure 1) >>= fun _ => _) _
  rw [Proc.attempt_status_bind, bind_pure_unit]
  exact ((runPollers_erases X).attempt fun e => cerr_erases _).bind_tell _

end Logged

end VitaleBackend
