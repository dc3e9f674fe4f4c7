import VitaleBackend.Poller.DbWriter
import VitaleBackend.RuleEngine.SnapshotRules
import VitaleBackend.RuleEngine.ObjectRules

/-!
# The pollers and `main`

`Poller.run` is the template method of `poller_base.cpp`: log in if needed, build the URL, fetch,
and hand the body to the poller, whose exceptions are logged and swallowed. `satcatPoller` and
`gpPoller` are its two instances, and `main` is one cron invocation.
-/

namespace VitaleBackend

open Process

/-- The virtual methods of a poller. -/
structure Poller where
  name : String
  buildQueryUrl : Except Exn String
  processResponse : String → Job Unit

namespace Poller

/-- The first part of `run()`: whether the process is logged in when it is over. -/
def ensureLoggedIn (p : Poller) : Job Bool := do
  if ← Proc.read (·.loggedIn) then return true
  else
    match ← login with
    | .error text => do
      logError (p.name ++ " poller: login failed: " ++ text)
      return false
    | .ok () => return true

/-- `run()` up to the response. -/
def fetch (p : Poller) : Job (Option String) := do
  if ← p.ensureLoggedIn then
    let url ← Proc.ofExcept p.buildQueryUrl
    match ← get url with
    | .error text => do
      logError (p.name ++ " poller: fetch failed: " ++ text)
      return none
    | .ok body => return some body
  else return none

/-- The handler around `process_response`. -/
def handle (p : Poller) (body : String) : Job Unit :=
  Proc.attempt (p.processResponse body) fun e =>
    logError (p.name ++ " poller: processing response failed: " ++ e.what)

/-- `Poller::run`. -/
def run (p : Poller) : Job Unit := do
  match ← p.fetch with
  | none => pure ()
  | some body => p.handle body

end Poller

/-! ## `SatcatPoller` -/

/-- `kSatcatUrl`, which asks for entries without a decay date. -/
def kSatcatUrl : String :=
  "https://www.space-track.org/basicspacedata/query/class/satcat/CURRENT/Y/DECAY/null-val/format/json"

namespace SatcatPoller

/-- `SatcatPoller::process_response`: a parse error is left to the caller, a failed batch is
logged. -/
def processResponse (X : Externals) (jsonBody : String) : Job Unit := do
  let records ← Proc.ofExcept (parseSatcatResponse X jsonBody)
  Proc.attempt
    (do
      let _ ← DbWriter.upsertObjectsFromSatcat X makeDefaultObjectRuleRegistry records
      pure ())
    fun e => logError ("satcat poller: batch upsert failed, nothing committed: " ++ e.what)

end SatcatPoller

/-- `SatcatPoller`, with its name and its virtual methods. -/
def satcatPoller (X : Externals) : Poller where
  name := "satcat"
  buildQueryUrl := .ok kSatcatUrl
  processResponse := SatcatPoller.processResponse X

/-! ## `GpPoller` -/

namespace GpPoller

/-- The ids of the query, comma-separated. -/
def joinIds : List Int → String
  | [] => ""
  | [id] => toString id
  | id :: ids => toString id ++ "," ++ joinIds ids

/-- The first part of the URL, before the numbers. -/
def kGpUrlPrefix : String := "https://www.space-track.org/basicspacedata/query/class/gp/NORAD_CAT_ID/"

/-- `GpPoller::build_query_url`. -/
def buildQueryUrl (hotTargetIds rotationTargetIds : List Int) : Except Exn String :=
  if hotTargetIds = [] ∧ rotationTargetIds = [] then
    .error (.runtimeError "GpPoller has no target NORAD IDs configured")
  else .ok (kGpUrlPrefix ++ joinIds (hotTargetIds ++ rotationTargetIds) ++
    "/decay_date/null-val/orderby/NORAD_CAT_ID/format/json")

/-- `++inserted`. -/
def countInserted : Job Unit :=
  Proc.modify fun s => { s with counts := { s.counts with inserted := s.counts.inserted + 1 } }

/-- `++unchanged`. -/
def countUnchanged : Job Unit :=
  Proc.modify fun s => { s with counts := { s.counts with unchanged := s.counts.unchanged + 1 } }

/-- `++error`. -/
def countError : Job Unit :=
  Proc.modify fun s => { s with counts := { s.counts with error := s.counts.error + 1 } }

/-- The events of one pair, one transaction each. -/
def insertEvents (noradCatId : Int) (prevSnapshotId newSnapshotId : Nat) :
    List DetectedEvent → Job Unit :=
  Proc.forEach fun event =>
    DbWriter.insertEvent noradCatId event (some prevSnapshotId) newSnapshotId

/-- What follows the insert of a snapshot: the rules run when there is a predecessor. -/
def recordPair (record : GpRecord) (prev : Option Snapshot) (newSnapshotId : Nat) : Job Unit :=
  match prev with
  | none => pure ()
  | some p =>
    insertEvents record.object.noradCatId p.id newSnapshotId
      (makeDefaultRuleRegistry.evaluateAll p record.snapshot)

/-- The `try` block of the loop. -/
def storeRecord (X : Externals) (record : GpRecord) : Job Unit := do
  let prev ← DbWriter.getLastSnapshot X record.object.noradCatId
  if prev.any (·.gpId = record.snapshot.gpId) then countUnchanged
  else do
    let newSnapshotId ← DbWriter.insertSnapshot X record.snapshot
    countInserted
    recordPair record prev newSnapshotId

/-- One turn of the loop: an exception is counted and logged, and the loop goes on. -/
def processRecord (X : Externals) (record : GpRecord) : Job Unit :=
  Proc.attempt (storeRecord X record) fun e => do
    countError
    logError ("gp poller: failed to process norad " ++ toString record.object.noradCatId ++ ": " ++
      e.what)

/-- The end of `process_response`: only the rotation targets move the cursor. -/
def advanceCursor (rotationTargetIds : List Int) : Job Unit :=
  match rotationTargetIds.getLast? with
  | some newCursor => DbWriter.advanceGpRotationCursor newCursor
  | none => pure ()

/-- `GpPoller::process_response`. -/
def processResponse (X : Externals) (rotationTargetIds : List Int) (jsonBody : String) :
    Job Unit := do
  let records ← Proc.ofExcept (parseGpResponse X jsonBody)
  Proc.modify fun s => { s with counts := {} }
  Proc.forEach (processRecord X) records
  advanceCursor rotationTargetIds

end GpPoller

/-- `GpPoller`, constructed with its targets. -/
def gpPoller (X : Externals) (hotTargetIds rotationTargetIds : List Int) : Poller where
  name := "gp"
  buildQueryUrl := GpPoller.buildQueryUrl hotTargetIds rotationTargetIds
  processResponse := GpPoller.processResponse X rotationTargetIds

/-! ## `main` -/

/-- One hour, in microseconds. -/
def kGpInterval : Timestamp := 3600 * 1000000

/-- 24 hours, in microseconds. -/
def kSatcatInterval : Timestamp := 24 * 3600 * 1000000

/-- `kGpBatchSize`, for hot and rotation targets together. -/
def kGpBatchSize : Nat := 500

/-- `kGpMaxHotSlots`, for the hot ones. -/
def kGpMaxHotSlots : Nat := 200

/-- The GP part of `main`: both target lists are selected when the poller is about to run. -/
def runGp (X : Externals) : Job Unit := do
  let hotTargets ← DbWriter.topGpHotTargets kGpMaxHotSlots
  let rotationTargets ← DbWriter.nextGpRotationBatch (kGpBatchSize - hotTargets.length) hotTargets
  (gpPoller X hotTargets rotationTargets).run

/-- `if (due) { job; }`. -/
def whenDue (due : Bool) (job : Job Unit) : Job Unit := if due then job else pure ()

/-- The body of `main`: both due-checks, both stamps, then the pollers. -/
def runPollers (X : Externals) : Job Unit := do
  let satcatDue ← DbWriter.isPollerDue "satcat" kSatcatInterval
  let gpDue ← DbWriter.isPollerDue "gp" kGpInterval
  whenDue satcatDue (DbWriter.markPollerRun "satcat")
  whenDue gpDue (DbWriter.markPollerRun "gp")
  whenDue satcatDue (satcatPoller X).run
  whenDue gpDue (runGp X)

/-- One cron invocation, from the connection on. -/
def main (X : Externals) : Job Unit :=
  Proc.attempt (runPollers X) fun e => logError ("poller: fatal error: " ++ e.what)

/-- A process that was just started. -/
def Session.start (db : Database) (env : Nat → Call) : Session where
  db
  env

end VitaleBackend
