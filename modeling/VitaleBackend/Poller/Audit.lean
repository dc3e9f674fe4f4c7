import VitaleBackend.Api.Catalog
import VitaleBackend.Poller.Interleaved
import VitaleBackend.Poller.LogFrames
import VitaleBackend.Poller.Redelivery

/-!
# The log as an account of the tables

Every event that is recorded gets a line of its own, right after its transaction, and so does every
move of the rotation cursor. So the lines of one kind are, in order, the rows that were added to
`audt_events`, and the last line of the other kind has the cursor: after one invocation, wherever it
fails or is stopped, and after any number of them (`pollerLog_audited`).
-/

namespace VitaleBackend

open Process

/-- The line of an event. Those of the catalogue do not name their object. -/
def EventRow.message (row : EventRow) : Message :=
  if row.prevSnapshotId.isSome then .fired row.noradCatId row.eventTypeCode
  else .firedObject row.eventTypeCode

/-- What a journal says about the tables before and after it. -/
structure Audited (before after : Database) (journal : List Message) : Prop where
  events : ∃ new, after.audtEvents = before.audtEvents ++ new ∧
    journal.filterMap Message.event? = new.map EventRow.message
  cursor : after.rotationCursor =
    (journal.filterMap Message.cursor?).getLast?.or before.rotationCursor

/-- Nothing is written of nothing. -/
theorem Audited.refl (db : Database) : Audited db db [] :=
  ⟨⟨[], (List.append_nil _).symm, rfl⟩, (Option.none_or).symm⟩

/-- The accounts of two jobs in a row make one account: the rows of the first come before those of
the second, and the later cursor counts. -/
theorem Audited.trans {a b c : Database} {journal journal' : List Message}
    (h : Audited a b journal) (h' : Audited b c journal') : Audited a c (journal ++ journal') := by
  obtain ⟨new, hevents, hsame⟩ := h.events
  obtain ⟨new', hevents', hsame'⟩ := h'.events
  refine ⟨⟨new ++ new', ?_, ?_⟩, ?_⟩
  · rw [hevents', hevents, List.append_assoc]
  · rw [List.filterMap_append, List.map_append, hsame, hsame']
  · rw [h'.cursor, h.cursor, List.filterMap_append, List.getLast?_append, Option.or_assoc]

/-- The tables keep what a journal tells of. -/
structure Unaudited (db db' : Database) : Prop where
  events : db'.audtEvents = db.audtEvents
  cursor : db'.rotationCursor = db.rotationCursor

/-- Doing nothing keeps what a journal tells of. -/
instance : Std.Refl Unaudited := ⟨fun _ => ⟨rfl, rfl⟩⟩

/-- Such work needs no line. -/
theorem Unaudited.audited {db db' : Database} (h : Unaudited db db') : Audited db db' [] :=
  ⟨⟨[], by rw [h.events, List.append_nil], rfl⟩, h.cursor⟩

/-- Accounts compose, so that the frame rules of a journal apply to them. -/
theorem audited_composes : Proc.Composes fun s t : Session => Audited s.db t.db :=
  ⟨fun s => .refl s.db, fun h h' => h.trans h'⟩

/-- What a job that prints writes is an account of what it does. -/
abbrev AuditedRun : Session × List Message → Session × List Message → Prop := Prints Audited

/-- Doing and writing nothing is an account. -/
instance : Std.Refl AuditedRun := audited_composes.refl_wrote

/-- Jobs in a row keep an account. -/
instance : IsTrans (Session × List Message) AuditedRun := audited_composes.trans_wrote

/-- The lines about logins, requests and errors tell of no row, and what is done around them adds
none. -/
theorem audited_frame : LogFrame Audited where
  refl := .refl
  other m h db := ⟨⟨[], (List.append_nil _).symm, by simp [h.event]⟩, by simp [h.cursor]⟩
  stamp pollerName now db :=
    Unaudited.audited ⟨rfl, Rotations.rotationCursor_markPollerRun pollerName now db⟩

namespace Logged

/-- Work of this kind may be done without a line. -/
theorem silent_audited {m : Job α} (h : Proc.Within (OnDb Unaudited) m) :
    Proc.Within AuditedRun (Proc.silent m) :=
  h.silent fun _ _ hrun => hrun.db.audited

/-! ## A GP run -/

/-- An event of a pair is recorded and printed, or neither. -/
theorem insertEvent_audited (noradCatId : Int) (event : DetectedEvent)
    (prevSnapshotId newSnapshotId : Nat) :
    Proc.Within AuditedRun (do
      Proc.silent (DbWriter.insertEvent noradCatId event (some prevSnapshotId) newSnapshotId)
      cout (.fired noradCatId event.eventTypeCode)) := by
  refine audited_frame.transaction_bind fun s u db l hbody => ?_
  obtain ⟨hallowed, rfl⟩ := Sql.insertEvent_ok.1 (map_unit_ok.1 hbody)
  exact ⟨_, rfl, ⟨[_], rfl, rfl⟩, (Option.none_or).symm⟩

/-- The events of a pair get a line each, behind the transaction that records them. -/
theorem recordPair_audited (record : GpRecord) (prev : Option Snapshot) (newSnapshotId : Nat) :
    Proc.Within AuditedRun (recordPair record prev newSnapshotId) := by
  cases prev with
  | none => exact .pure _
  | some p => exact Proc.Within.forEach fun event _ => insertEvent_audited _ event _ _

/-- Of a record, the insert of the snapshot gets no line and the events do. -/
theorem storeRecord_audited (X : Externals) (record : GpRecord) :
    Proc.Within AuditedRun (storeRecord X record) := by
  refine (audited_frame.silent_onDb (query_onDb _)).bind fun prev => ?_
  split
  · exact audited_frame.silent_onDb (modify_onDb fun _ => ⟨rfl, rfl, rfl, rfl⟩)
  · have hinsert : Proc.Within (OnDb Unaudited) (DbWriter.insertSnapshot X record.snapshot) :=
      transaction_onDb fun call db id db' h => by
        obtain ⟨row, -, -, hallowed, rfl⟩ := Sql.insertSnapshot_ok.1 h
        exact ⟨rfl, rfl⟩
    exact (silent_audited hinsert).bind fun id =>
      (audited_frame.silent_onDb (modify_onDb fun _ => by exact ⟨rfl, rfl, rfl, rfl⟩)).bind fun _ =>
        recordPair_audited record prev id

/-- A record that fails gets a line about its error, which tells of no row. -/
theorem processRecord_audited (X : Externals) (record : GpRecord) :
    Proc.Within AuditedRun (processRecord X record) :=
  (storeRecord_audited X record).attempt fun _ =>
    (audited_frame.silent_onDb (modify_onDb fun _ => by exact ⟨rfl, rfl, rfl, rfl⟩)).bind fun _ =>
      (audited_frame.silent_onDb (logError_onDb _)).bind fun _ =>
        .tell fun _ => ⟨⟨[], (List.append_nil _).symm, rfl⟩, (Option.none_or).symm⟩

/-- The cursor is moved and printed, or neither. -/
theorem advanceCursor_audited (rotationTargetIds : List Int) :
    Proc.Within AuditedRun (advanceCursor rotationTargetIds) := by
  unfold advanceCursor
  cases rotationTargetIds.getLast? with
  | none => exact audited_frame.cout ⟨rfl, rfl, rfl, rfl⟩
  | some newCursor =>
    refine audited_frame.transaction_bind fun s u db l hbody => ?_
    have hadvance := map_unit_ok.1 hbody
    refine ⟨_, rfl, ⟨[], ?_, rfl⟩, Sql.rotationCursor_advance hadvance⟩
    obtain ⟨-, rfl⟩ := Sql.advanceGpRotationCursor_ok.1 hadvance
    exact (List.append_nil _).symm

/-- A GP response: one record after another, and then the cursor with its line. -/
theorem gpProcessResponse_audited (X : Externals) (hotTargetIds rotationTargetIds : List Int)
    (body : String) :
    Proc.Within AuditedRun (gpProcessResponse X hotTargetIds rotationTargetIds body) := by
  refine (audited_frame.silent (.ofExcept _)).bind fun records =>
    (audited_frame.cout ⟨rfl, rfl, rfl, rfl⟩).bind fun _ =>
    (audited_frame.silent_onDb (modify_onDb fun _ => by exact ⟨rfl, rfl, rfl, rfl⟩)).bind
      fun _ => ?_
  refine Proc.Within.bind (Proc.Within.forEach fun record _ => processRecord_audited X record)
    fun _ => ?_
  have hsummary : Proc.Within AuditedRun (summary records.length) :=
    (audited_frame.silent (.read _)).bind fun _ =>
      .tell fun _ => ⟨⟨[], (List.append_nil _).symm, rfl⟩, (Option.none_or).symm⟩
  exact hsummary.bind fun _ => advanceCursor_audited rotationTargetIds

/-- A GP run: its selects, its request and its response. -/
theorem runGp_audited (X : Externals) : Proc.Within AuditedRun (runGp X) := by
  refine (audited_frame.silent_onDb (query_onDb _)).bind fun hot =>
    (audited_frame.silent_onDb (query_onDb _)).bind fun rot => ?_
  exact (audited_frame.cout ⟨rfl, rfl, rfl, rfl⟩).bind fun _ =>
    (audited_frame.cout ⟨rfl, rfl, rfl, rfl⟩).bind fun _ =>
      audited_frame.run (gpProcessResponse_audited X hot rot)

/-! ## A SATCAT run -/

/-- The events of a record of the catalogue. -/
theorem insertSatcatEvents_rows {call : Call} {n : Int} {events : List DetectedEvent}
    {db db' : Database} (h : Sql.insertSatcatEvents call n events db = .ok db') :
    ∃ new, db'.audtEvents = db.audtEvents ++ new ∧
      new.map EventRow.message = events.map fun e => .firedObject e.eventTypeCode := by
  induction events generalizing db with
  | nil =>
    cases h
    exact ⟨[], (List.append_nil _).symm, rfl⟩
  | cons e events ih =>
    obtain ⟨db₁, h₁, h₂⟩ := bind_eq_ok.1 h
    obtain ⟨hallowed, rfl⟩ := Sql.insertEvent_ok.1 h₁
    obtain ⟨new, hnew, hmessages⟩ := ih h₂
    refine ⟨Sql.eventRow call n e none none db :: new, ?_, ?_⟩
    · rw [hnew, Database.addEvent_audtEvents, List.append_assoc]
      rfl
    · rw [List.map_cons, List.map_cons, hmessages]
      rfl

/-- A batch records the events that it returns. -/
theorem batch_rows {X : Externals} {registry : RuleRegistry ObjectState} {call : Call}
    {objs : List ObjectRecord} {events : List DetectedEvent} {db db' : Database}
    (h : Sql.upsertObjectsFromSatcat X registry call objs db = .ok (events, db')) :
    db'.pollerState = db.pollerState ∧ ∃ new, db'.audtEvents = db.audtEvents ++ new ∧
      new.map EventRow.message = events.map fun e => .firedObject e.eventTypeCode := by
  induction objs generalizing db events with
  | nil =>
    cases h
    exact ⟨rfl, [], (List.append_nil _).symm, rfl⟩
  | cons obj objs ih =>
    obtain ⟨e₁, db₁, e₂, hrow, hrest, rfl⟩ := upsertObjectsFromSatcat_cons_ok.1 h
    have hpoller := (upsertRow_ok hrow).2.pollerState
    simp only [Sql.upsertRow, bind_eq_ok] at hrow
    obtain ⟨db₂, hevents, row, -, db₃, hobject, ⟨⟩⟩ := hrow
    obtain ⟨new, hnew, hmessages⟩ := insertSatcatEvents_rows hevents
    obtain ⟨-, -, -, hsame, -⟩ := Sql.upsertObject_ok hobject
    obtain ⟨hpoller', new', hnew', hmessages'⟩ := ih hrest
    refine ⟨hpoller'.trans hpoller, new ++ new', ?_, ?_⟩
    · rw [hnew', hsame, hnew, List.append_assoc]
    · rw [List.map_append, List.map_append, hmessages, hmessages']

/-- The lines of a batch are lines of events, and none of them has a cursor. -/
theorem firedObject_lines (events : List DetectedEvent) :
    (events.map fun e => Message.firedObject e.eventTypeCode).filterMap Message.event? =
        events.map (fun e => Message.firedObject e.eventTypeCode) ∧
      (events.map fun e => Message.firedObject e.eventTypeCode).filterMap Message.cursor? = [] := by
  constructor
  · induction events with
    | nil => rfl
    | cons e events ih => exact congrArg (Message.firedObject e.eventTypeCode :: ·) ih
  · simp [Message.cursor?]

/-- The lines of a batch that was committed. -/
theorem batch_audited {events : List DetectedEvent} {db db' : Database} (n : Nat)
    (hpoller : db'.pollerState = db.pollerState) (hnew : ∃ new,
      db'.audtEvents = db.audtEvents ++ new ∧
        new.map EventRow.message = events.map fun e => .firedObject e.eventTypeCode) :
    Audited db db' (.upserted n :: events.map fun e => .firedObject e.eventTypeCode) := by
  obtain ⟨new, hnew, hmessages⟩ := hnew
  obtain ⟨hevents, hcursor⟩ := firedObject_lines events
  refine ⟨⟨new, hnew, hevents.trans hmessages.symm⟩, ?_⟩
  show db'.rotationCursor = (List.filterMap Message.cursor? _).getLast?.or db.rotationCursor
  rw [List.filterMap_cons_none rfl, hcursor, List.getLast?_nil, Option.none_or,
    Database.rotationCursor, hpoller]
  rfl

/-- A SATCAT response: one batch with one transaction, and a line for each of its events. -/
theorem satcatProcessResponse_audited (X : Externals) (body : String) :
    Proc.Within AuditedRun (satcatProcessResponse X body) :=
  audited_frame.satcatProcessResponse (fun call n objs events db db' h => by
    obtain ⟨hpoller, hnew⟩ := batch_rows h
    exact batch_audited n hpoller hnew) body

/-! ## Invocations -/

/-- Both pollers, when they are due, with their stamps before them. -/
theorem runPollers_audited (X : Externals) : Proc.Within AuditedRun (runPollers X) := by
  have hsatcat : Proc.Within AuditedRun (runSatcat X) :=
    (audited_frame.cout ⟨rfl, rfl, rfl, rfl⟩).bind fun _ =>
      audited_frame.run (satcatProcessResponse_audited X)
  refine (audited_frame.silent_onDb (query_onDb _)).bind fun satcatDue =>
    (audited_frame.silent_onDb (query_onDb _)).bind fun gpDue => ?_
  refine (audited_frame.markPollerRun satcatDue "satcat").bind fun _ =>
    (audited_frame.markPollerRun gpDue "gp").bind fun _ => ?_
  exact (audited_frame.whenDue hsatcat satcatDue ⟨rfl, rfl, rfl, rfl⟩).bind fun _ =>
    audited_frame.whenDue (runGp_audited X) gpDue ⟨rfl, rfl, rfl, rfl⟩

/-- What an invocation prints is an account of what it does to the tables, however it ends. -/
theorem main_audited (X : Externals) (env : Environment) :
    Proc.Within AuditedRun (main X env) := by
  refine (audited_frame.cout ⟨rfl, rfl, rfl, rfl⟩).bind fun _ => ?_
  split
  · exact (audited_frame.cerr ⟨rfl, rfl, rfl, rfl⟩).bind fun _ =>
      (audited_frame.cout ⟨rfl, rfl, rfl, rfl⟩).bind fun _ => .pure _
  · refine Proc.Within.bind (Proc.Within.attempt ?_ fun e => ?_) fun status => ?_
    · exact (audited_frame.silent (.ofExcept _)).bind fun _ =>
        (runPollers_audited X).bind fun _ => .pure _
    · exact (audited_frame.cerr ⟨rfl, rfl, rfl, rfl⟩).bind fun _ => .pure _
    · exact (audited_frame.cout ⟨rfl, rfl, rfl, rfl⟩).bind fun _ => .pure _

end Logged

/-! ## The log of many invocations -/

/-- An invocation on some tables: what it prints, and the tables that it leaves. -/
def invocation (X : Externals) (env : Logged.Environment) (calls : Nat → Call) (db : Database) :
    Session × List Message :=
  (Logged.main X env (.start db calls, [])).2

/-- The file to which all invocations append what they print, one after the other, while clients of
the API look at objects in between. -/
inductive PollerLog (X : Externals) : Database → List Message → Database → Prop
  | empty (db : Database) : PollerLog X db [] db
  | invocation {before after : Database} {journal : List Message}
      (h : PollerLog X before journal after) (env : Logged.Environment) (calls : Nat → Call) :
      PollerLog X before (journal ++ (invocation X env calls after).2)
        (invocation X env calls after).1.db
  | hit {before after : Database} {journal : List Message} (h : PollerLog X before journal after)
      (noradCatId : Int) : PollerLog X before journal (Sql.countHit noradCatId after)

/-- The whole invocation: what it prints is an account of what it does to the tables. -/
theorem invocation_audited (X : Externals) (env : Logged.Environment) (calls : Nat → Call)
    (db : Database) :
    Audited db (invocation X env calls db).1.db (invocation X env calls db).2 := by
  obtain ⟨more, hmore, haudited⟩ := Logged.main_audited X env (.start db calls, [])
  rw [List.nil_append] at hmore
  rwa [← hmore] at haudited

/-- A hit adds no event and moves no cursor. -/
theorem countHit_unaudited (noradCatId : Int) (db : Database) :
    Unaudited db (Sql.countHit noradCatId db) := ⟨rfl, rfl⟩

/-- The log tells, in their order, of exactly the events that were recorded since it was begun, and
its last line about the cursor has the cursor: whatever failed, and wherever processes stopped. -/
theorem pollerLog_audited {X : Externals} {before after : Database} {journal : List Message}
    (h : PollerLog X before journal after) : Audited before after journal := by
  induction h with
  | empty => exact .refl before
  | invocation h env calls ih => exact ih.trans (invocation_audited X env calls _)
  | hit h noradCatId ih =>
    have hboth := ih.trans (countHit_unaudited noradCatId _).audited
    rwa [List.append_nil] at hboth

namespace AuditFixture

open RedeliveryFixture

/-- A process is started with credentials, and with a database that can be connected to. -/
def environment : Logged.Environment := ⟨some "", some "", some "db", fun _ => .ok ()⟩

/-- The thirteenth call of the process, which moves the cursor, fails. The event is recorded. -/
def calls : Nat → Call := fun i =>
  if i = 12 then { calmEnv 0 response i with fault := .fails } else calmEnv 0 response i

/-- The lines of the first invocation tell of one event and of no cursor. -/
def first : Session × List Message := invocation externals environment calls before

/-- The hour after, which has nothing to record and moves the cursor. -/
def second : Session × List Message :=
  invocation externals environment (calmEnv kGpInterval response) first.1.db

end AuditFixture

open AuditFixture in
/-- Over both invocations the journal tells of the event of the first and of the cursor of the
second. -/
theorem pollerLog_audited_twice :
    Audited RedeliveryFixture.before second.1.db (([] ++ first.2) ++ second.2) ∧
      first.2.filterMap Message.event? = [.fired 5 "raan_shift"] ∧
      second.1.db.audtEvents.length = 1 ∧
      first.1.db.rotationCursor = none ∧ second.1.db.rotationCursor = some 5 :=
  ⟨pollerLog_audited (.invocation (.invocation (.empty _) environment calls)
      environment (calmEnv kGpInterval RedeliveryFixture.response)),
    by decide +kernel, by decide +kernel, by decide +kernel, by decide +kernel⟩

end VitaleBackend
