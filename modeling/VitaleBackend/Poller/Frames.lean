import VitaleBackend.Poller.Pollers

/-!
# What each poller may write

The frame conditions of the pollers, each read off the statements they run: a relation between
databases that every statement respects is respected by the whole run (`OnDb`, and `OnRun` for what
also sends requests). `GpWrites` is the relation of a GP response up to its cursor: rows are only
appended, to `snapshots` and `audt_events`.
-/

namespace VitaleBackend

open Process

/-- A relation between databases, as one between processes that make calls and send no GET request.
A process does not choose its environment. -/
structure OnDb (Q : Database → Database → Prop) (s s' : Session) : Prop where
  db : Q s.db s'.db
  env : s'.env = s.env
  used : s.used ≤ s'.used
  sent : s'.sent = s.sent

/-- The same for processes that may send requests. -/
structure OnRun (Q : Database → Database → Prop) (s s' : Session) : Prop where
  db : Q s.db s'.db
  env : s'.env = s.env
  used : s.used ≤ s'.used

/-- Two databases agree on a component. -/
abbrev KeepsDb {γ : Type} (f : Database → γ) : Database → Database → Prop := Proc.Keeps f

/-- `if (due) { job; }` does what the job does, or nothing. -/
theorem whenDue_within {R : Session → Session → Prop} [Std.Refl R] {job : Job Unit}
    (h : Proc.Within R job) (due : Bool) : Proc.Within R (whenDue due job) := by
  unfold whenDue
  split
  · exact h
  · exact .pure _

section
variable {Q : Database → Database → Prop}

/-- A process that sends nothing is one that may. -/
theorem onRun {m : Job α} (h : Proc.Within (OnDb Q) m) : Proc.Within (OnRun Q) m :=
  fun s => ⟨(h s).db, (h s).env, (h s).used⟩

/-- A job that does nothing is within any reflexive frame. -/
instance [Std.Refl Q] : Std.Refl (OnDb Q) := ⟨fun s => ⟨refl_of Q s.db, rfl, le_refl _, rfl⟩⟩

/-- Jobs in a row are within a transitive one. -/
instance [IsTrans Database Q] : IsTrans Session (OnDb Q) :=
  ⟨fun _ _ _ h h' => ⟨trans_of Q h.db h'.db, h'.env.trans h.env, h.used.trans h'.used,
    h'.sent.trans h.sent⟩⟩

/-- The same of a run, which may send requests. -/
instance [Std.Refl Q] : Std.Refl (OnRun Q) := ⟨fun s => ⟨refl_of Q s.db, rfl, le_refl _⟩⟩

/-- So are runs in a row. -/
instance [IsTrans Database Q] : IsTrans Session (OnRun Q) :=
  ⟨fun _ _ _ h h' => ⟨trans_of Q h.db h'.db, h'.env.trans h.env, h.used.trans h'.used⟩⟩

variable [Std.Refl Q]

/-- A change of the process's own variables does not touch the tables. -/
theorem modify_onDb {f : Session → Session} (h : ∀ s, (f s).db = s.db ∧ (f s).env = s.env ∧
    (f s).used = s.used ∧ (f s).sent = s.sent) :
    Proc.Within (OnDb Q) (Proc.modify f : Job Unit) := by
  intro s
  obtain ⟨hdb, henv, hused, hsent⟩ := h s
  refine ⟨?_, henv, hused.ge, hsent⟩
  show Q s.db (f s).db
  rw [hdb]
  exact refl_of Q s.db

/-- Writing to the log leaves the tables alone. -/
theorem logError_onDb (line : String) : Proc.Within (OnDb Q) (logError line) :=
  modify_onDb fun _ => ⟨rfl, rfl, rfl, rfl⟩

/-- A transaction respects what its statements respect. -/
theorem transaction_onDb {body : Call → Database → Except Exn (α × Database)}
    (h : ∀ call db a db', body call db = .ok (a, db') → Q db db') :
    Proc.Within (OnDb Q) (transaction body) :=
  transaction_within (fun s => ⟨refl_of Q s.db, rfl, Nat.le_succ _, rfl⟩)
    fun _ a db hb => ⟨h _ _ a db hb, rfl, Nat.le_succ _, rfl⟩

/-- A select leaves the tables alone, whether it fails or not. -/
theorem query_onDb (f : Call → Database → α) : Proc.Within (OnDb Q) (query f) :=
  transaction_onDb fun _ db _ _ h => by
    cases h
    exact refl_of Q db

/-- A request is one call, whatever comes of it. -/
theorem request_next (method url : String) (s : Session) : (request method url s).2 = s.next := by
  unfold request
  split <;> rfl

/-- A request leaves the tables alone. -/
theorem request_onDb (method url : String) : Proc.Within (OnDb Q) (request method url) := by
  intro s
  rw [request_next]
  exact ⟨refl_of Q s.db, rfl, Nat.le_succ _, rfl⟩

variable [IsTrans Database Q]

/-- So does the login, which is a request. -/
theorem login_onDb : Proc.Within (OnDb Q) login := by
  refine (request_onDb _ _).bind fun r => ?_
  rcases r with ⟨_, _ | body⟩
  · exact .pure _
  · dsimp only
    split
    · exact .pure _
    · exact (modify_onDb fun _ => by exact ⟨rfl, rfl, rfl, rfl⟩).bind fun _ => .pure _

/-- So does `ensure_logged_in`, which logs in or does nothing. -/
theorem ensureLoggedIn_onDb (p : Poller) : Proc.Within (OnDb Q) p.ensureLoggedIn := by
  refine (Proc.Within.read _).bind fun l => ?_
  split
  · exact .pure _
  · refine login_onDb.bind fun r => ?_
    cases r with
    | error text => exact (logError_onDb _).bind fun _ => .pure _
    | ok u => exact .pure _

/-- A GET request leaves the tables alone and is put on record. -/
theorem get_onRun (url : String) : Proc.Within (OnRun Q) (get url) := by
  refine (Proc.Within.read _).bind fun l => ?_
  split
  · refine (onRun (request_onDb _ _)).bind fun _ => Proc.Within.bind (fun s => ?_) fun _ => .pure _
    exact ⟨refl_of Q s.db, rfl, le_refl _⟩
  · exact .pure _

/-- Up to the response, a run does not touch the tables. -/
theorem fetch_onRun (p : Poller) : Proc.Within (OnRun Q) p.fetch := by
  refine (onRun (ensureLoggedIn_onDb p)).bind fun l => ?_
  split
  · refine (Proc.Within.ofExcept _).bind fun url => (get_onRun url).bind fun r => ?_
    cases r with
    | error text => exact (onRun (logError_onDb _)).bind fun _ => .pure _
    | ok body => exact .pure _
  · exact .pure _

/-- A body that `get` returned was answered with a 2xx status at some call of the process. -/
theorem get_ok {url body : String} {s s' : Session} (h : get url s = (.ok (.ok body), s')) :
    ∃ i reply, (s.env i).reply url = .ok reply ∧ 200 ≤ reply.status ∧ reply.status < 300 ∧
      reply.body = body := by
  obtain ⟨l, s₁, hl, h⟩ := Proc.bind_eq_ok.1 h
  cases hl
  split at h
  · obtain ⟨⟨time, response⟩, s₂, hr, h⟩ := Proc.bind_eq_ok.1 h
    obtain ⟨_, s₃, -, h⟩ := Proc.bind_eq_ok.1 h
    cases h
    unfold request at hr
    cases hf : s.call.fault with
    | none =>
      simp only [hf] at hr
      cases hc : s.call.reply url with
      | error text =>
        rw [hc] at hr
        cases hr
      | ok reply =>
        rw [hc] at hr
        simp only [checkStatus, Prod.mk.injEq, Outcome.ok.injEq] at hr
        obtain ⟨⟨-, hb⟩, -⟩ := hr
        split at hb
        · cases hb
        · next hst =>
          cases hb
          exact ⟨s.used, reply, hc, by omega, by omega, rfl⟩
    | fails =>
      simp only [hf] at hr
      cases hr
    | stops =>
      simp only [hf] at hr
      cases hr
  · cases h

/-- A body that a poller fetched answers its URL. -/
theorem fetch_some {p : Poller} {body : String} {s s' : Session}
    (h : p.fetch s = (.ok (some body), s')) :
    ∃ url i reply, p.buildQueryUrl = .ok url ∧ (s.env i).reply url = .ok reply ∧
      200 ≤ reply.status ∧ reply.status < 300 ∧ reply.body = body := by
  obtain ⟨l, s₁, hl, h⟩ := Proc.bind_eq_ok.1 h
  have henv : s₁.env = s.env := by
    have he := (ensureLoggedIn_onDb p (Q := KeepsDb id) s).env
    rwa [hl] at he
  split at h
  · obtain ⟨url, s₂, hu, h⟩ := Proc.bind_eq_ok.1 h
    cases hb : p.buildQueryUrl with
    | error e =>
      rw [hb] at hu
      cases hu
    | ok url' =>
      rw [hb] at hu
      cases hu
      obtain ⟨r, s₃, hg, h⟩ := Proc.bind_eq_ok.1 h
      cases r with
      | error text =>
        obtain ⟨_, s₄, -, h⟩ := Proc.bind_eq_ok.1 h
        cases h
      | ok b =>
        cases h
        obtain ⟨i, reply, hr⟩ := get_ok hg
        rw [henv] at hr
        exact ⟨url, i, reply, rfl, hr⟩
  · cases h

/-- The handler of `run` writes nothing. -/
theorem handle_db (p : Poller) (body : String) (s : Session) :
    (p.handle body s).2.db = (p.processResponse body s).2.db := by
  unfold Poller.handle
  rw [Proc.attempt_run]
  rcases p.processResponse body s with ⟨_ | _ | _, s'⟩ <;> rfl

/-- A response is handled within the frame of its handler: the log of an error adds nothing to it.
-/
theorem handle_onDb {p : Poller} (h : ∀ body, Proc.Within (OnDb Q) (p.processResponse body))
    (body : String) : Proc.Within (OnDb Q) (p.handle body) :=
  (h body).attempt fun _ => logError_onDb _

/-- A run of a poller respects what its `process_response` respects. -/
theorem run_onRun {p : Poller} (h : ∀ body, Proc.Within (OnDb Q) (p.processResponse body)) :
    Proc.Within (OnRun Q) p.run := by
  refine (fetch_onRun p).bind fun r => ?_
  cases r with
  | none => exact .pure _
  | some body => exact onRun (handle_onDb h body)

end

/-! ## What is written -/

/-- The event that a row of `audt_events` records. -/
def EventRow.event (row : EventRow) : DetectedEvent := ⟨row.eventTypeCode, row.detailJson⟩

/-- What a row of `audt_events` says, apart from its id and its time. -/
structure RecordedEvent where
  noradCatId : Int
  event : DetectedEvent
  prevSnapshotId : Option Nat
  newSnapshotId : Option Nat

/-- What is recorded with an event, apart from its id and its time. -/
def EventRow.recorded (row : EventRow) : RecordedEvent :=
  ⟨row.noradCatId, row.event, row.prevSnapshotId, row.newSnapshotId⟩

/-- What is recorded of the row of an event: all but its id and its time. -/
theorem recorded_eventRow (call : Call) (n : Int) (e : DetectedEvent) (p q : Option Nat)
    (db : Database) : (Sql.eventRow call n e p q db).recorded = ⟨n, e, p, q⟩ := rfl

/-- Some events were recorded, and nothing else was written. -/
structure AppendsEvents (rs : List RecordedEvent) (db db' : Database) : Prop where
  objects : db'.objects = db.objects
  snapshots : db'.snapshots = db.snapshots
  pollerState : db'.pollerState = db.pollerState
  audtEvents : db'.audtEvents.map (·.recorded) = db.audtEvents.map (·.recorded) ++ rs

/-- Nothing is appended when nothing is done. -/
theorem AppendsEvents.nil (db : Database) : AppendsEvents [] db db :=
  ⟨rfl, rfl, rfl, (List.append_nil _).symm⟩

/-- One more insert before the others. -/
theorem AppendsEvents.cons {call : Call} {n : Int} {e : DetectedEvent} {p q : Option Nat}
    {rs : List RecordedEvent} {db db' : Database}
    (ha : db.EventAllowed (Sql.eventRow call n e p q db))
    (h : AppendsEvents rs (db.addEvent _ ha) db') :
    AppendsEvents (⟨n, e, p, q⟩ :: rs) db db' := by
  refine ⟨h.objects, h.snapshots, h.pollerState, ?_⟩
  rw [h.audtEvents, Database.addEvent_audtEvents, List.map_append, List.append_assoc]
  rfl

/-- A GP response appends to `snapshots` and `audt_events`, with the codes of its own rules, and
leaves the catalogue alone. -/
structure GpAppends (db db' : Database) : Prop where
  objects : db'.objects = db.objects
  snapshots : db.snapshots <+: db'.snapshots
  audtEvents : ∃ rows, db'.audtEvents = db.audtEvents ++ rows ∧
    ∀ r ∈ rows, r.eventTypeCode ∈ snapshotEventCodes

/-- Up to its cursor, a GP response writes nothing else. -/
structure GpWrites (db db' : Database) : Prop extends GpAppends db db' where
  pollerState : db'.pollerState = db.pollerState

/-- A GP run may do nothing. -/
theorem GpAppends.refl (db : Database) : GpAppends db db :=
  ⟨rfl, List.prefix_refl _, [], (List.append_nil _).symm, List.forall_mem_nil _⟩

/-- A GP run may write the states of the pollers: a stamp, or the cursor. -/
theorem GpAppends.withPollerState (db : Database) (pollerState : PollerState) :
    GpAppends db (db.withPollerState pollerState) :=
  ⟨rfl, List.prefix_refl _, [], (List.append_nil _).symm, List.forall_mem_nil _⟩

/-- What two runs append is appended by both in a row. -/
theorem GpAppends.trans {db₁ db₂ db₃ : Database} (h : GpAppends db₁ db₂) (h' : GpAppends db₂ db₃) :
    GpAppends db₁ db₃ := by
  obtain ⟨rows, he, hc⟩ := h.audtEvents
  obtain ⟨rows', he', hc'⟩ := h'.audtEvents
  refine ⟨h'.objects.trans h.objects, h.snapshots.trans h'.snapshots, rows ++ rows', ?_,
    List.forall_mem_append.2 ⟨hc, hc'⟩⟩
  rw [he', he, List.append_assoc]

/-- Doing nothing is such work. -/
instance : Std.Refl GpAppends := ⟨GpAppends.refl⟩

/-- Such work may be done in a row. -/
instance : IsTrans Database GpAppends := ⟨fun _ _ _ => GpAppends.trans⟩

/-- Doing nothing is such work. -/
instance : Std.Refl GpWrites := ⟨fun db => ⟨.refl db, rfl⟩⟩

/-- Such work may be done in a row. -/
instance : IsTrans Database GpWrites :=
  ⟨fun _ _ _ h h' => ⟨h.toGpAppends.trans h'.toGpAppends, h'.pollerState.trans h.pollerState⟩⟩

/-- The insert of a snapshot is such a write. -/
theorem GpWrites.addSnapshot (db : Database) (row : SnapshotRow) (h : db.SnapshotAllowed row) :
    GpWrites db (db.addSnapshot row h) :=
  ⟨⟨rfl, List.prefix_append _ _, [], (List.append_nil _).symm, List.forall_mem_nil _⟩, rfl⟩

/-- So is the insert of an event with one of the codes of the rules. -/
theorem GpWrites.addEvent (db : Database) (row : EventRow) (h : db.EventAllowed row)
    (hc : row.eventTypeCode ∈ snapshotEventCodes) : GpWrites db (db.addEvent row h) :=
  ⟨⟨rfl, List.prefix_refl _, [row], rfl, List.forall_mem_singleton.2 hc⟩, rfl⟩

/-- The result of a statement, as the method around it commits it. -/
theorem map_unit_ok {x : Except Exn Database} {r : Unit × Database} :
    ((), ·) <$> x = .ok r ↔ x = .ok r.2 := by
  cases x with
  | error e => simp [Functor.map, Except.map]
  | ok db =>
    constructor
    · rintro ⟨⟩
      rfl
    · rintro ⟨⟩
      rfl

/-! ## A GP run -/

/-- What the statements of a GP record do to the tables is within `Q`. -/
structure RecordFrame (X : Externals) (Q : Database → Database → Prop) : Prop where
  snapshot : ∀ call snap db id db', Sql.insertSnapshot X call snap db = .ok (id, db') → Q db db'
  event : ∀ call n e p q db db', e.eventTypeCode ∈ snapshotEventCodes →
    Sql.insertEvent call n e (some p) (some q) db = .ok db' → Q db db'

/-- The same for a whole response, which also moves the cursor. -/
structure ResponseFrame (X : Externals) (Q : Database → Database → Prop) : Prop
    extends RecordFrame X Q where
  cursor : ∀ c now db db', Sql.advanceGpRotationCursor c now db = .ok db' → Q db db'

section
variable {X : Externals} {Q : Database → Database → Prop} [Std.Refl Q] [IsTrans Database Q]

/-- Storing a record is within the frame of its transactions. -/
theorem storeRecord_onDb (h : RecordFrame X Q) (record : GpRecord) :
    Proc.Within (OnDb Q) (GpPoller.storeRecord X record) := by
  refine (query_onDb _).bind fun prev => ?_
  split
  · exact modify_onDb fun _ => ⟨rfl, rfl, rfl, rfl⟩
  · refine (transaction_onDb fun call db id db' => h.snapshot call _ db id db').bind fun id =>
      (modify_onDb fun _ => by exact ⟨rfl, rfl, rfl, rfl⟩).bind fun _ => ?_
    cases prev with
    | none => exact .pure _
    | some p =>
      refine Proc.Within.forEach fun event he => transaction_onDb fun call db a db' hr => ?_
      exact h.event call _ event p.id id db db' (mem_snapshotEvents he) (map_unit_ok.1 hr)

/-- So is the turn of a record, whose error is caught. -/
theorem processRecord_onDb (h : RecordFrame X Q) (record : GpRecord) :
    Proc.Within (OnDb Q) (GpPoller.processRecord X record) :=
  (storeRecord_onDb h record).attempt fun _ =>
    (modify_onDb fun _ => by exact ⟨rfl, rfl, rfl, rfl⟩).bind fun _ => logError_onDb _

/-- The loop over the records of a response. -/
theorem processRecords_onDb (h : RecordFrame X Q) (records : List GpRecord) :
    Proc.Within (OnDb Q) (Proc.forEach (GpPoller.processRecord X) records) :=
  Proc.Within.forEach fun r _ => processRecord_onDb h r

omit [IsTrans Database Q] in
/-- So is the move of the cursor at the end. -/
theorem advanceCursor_onDb (h : ResponseFrame X Q) (rotationTargetIds : List Int) :
    Proc.Within (OnDb Q) (GpPoller.advanceCursor rotationTargetIds) := by
  unfold GpPoller.advanceCursor
  split
  · exact transaction_onDb fun call db a db' hr => h.cursor _ call.now db db' (map_unit_ok.1 hr)
  · exact .pure _

/-- So a GP response is within the frame of its transactions, whether it is parsed or not. -/
theorem gp_processResponse_onDb (h : ResponseFrame X Q) (rotationTargetIds : List Int)
    (body : String) :
    Proc.Within (OnDb Q) (GpPoller.processResponse X rotationTargetIds body) :=
  (Proc.Within.ofExcept _).bind fun records =>
    (modify_onDb fun _ => by exact ⟨rfl, rfl, rfl, rfl⟩).bind fun _ =>
      (processRecords_onDb h.toRecordFrame records).bind fun _ => advanceCursor_onDb h _

/-- A GP run respects what the statements of its response respect. -/
theorem runGp_onRun (h : ResponseFrame X Q) : Proc.Within (OnRun Q) (runGp X) := by
  refine (onRun (query_onDb _)).bind fun hot => (onRun (query_onDb _)).bind fun rot => ?_
  exact run_onRun (p := gpPoller X hot rot) (gp_processResponse_onDb h rot)

omit [IsTrans Database Q] in
/-- A stamp is within a frame that has all stamps. -/
theorem markPollerRun_onDb (h : ∀ name now db, Q db (Sql.markPollerRun name now db))
    (pollerName : String) : Proc.Within (OnDb Q) (DbWriter.markPollerRun pollerName) := by
  refine transaction_onDb fun call db a db' hr => ?_
  cases hr
  exact h pollerName call.now db

/-- One cron invocation respects what the stamps, the satcat response and the GP run respect. -/
theorem main_onRun (hmark : ∀ name now db, Q db (Sql.markPollerRun name now db))
    (hsatcat : ∀ body, Proc.Within (OnDb Q) (SatcatPoller.processResponse X body))
    (hgp : Proc.Within (OnRun Q) (runGp X)) : Proc.Within (OnRun Q) (main X) := by
  refine Proc.Within.attempt ?_ fun e => onRun (logError_onDb _)
  refine (onRun (query_onDb _)).bind fun satcatDue => (onRun (query_onDb _)).bind fun gpDue => ?_
  refine (whenDue_within (onRun (markPollerRun_onDb hmark "satcat")) _).bind fun _ =>
    (whenDue_within (onRun (markPollerRun_onDb hmark "gp")) _).bind fun _ =>
    Proc.Within.bind (whenDue_within ?_ satcatDue) fun _ => whenDue_within hgp gpDue
  exact run_onRun (p := satcatPoller X) hsatcat

end

/-- The transactions of a record write what a GP run may write of it: by what the rules report,
whose codes are known. -/
theorem gpWrites_frame (X : Externals) : RecordFrame X GpWrites := by
  refine ⟨fun call snap db id db' h => ?_, fun call n e p q db db' hc h => ?_⟩
  · obtain ⟨row, -, -, ha, rfl⟩ := Sql.insertSnapshot_ok.1 h
    exact GpWrites.addSnapshot db row ha
  · obtain ⟨ha, rfl⟩ := Sql.insertEvent_ok.1 h
    exact GpWrites.addEvent db _ ha hc

/-- Those of a response write what a GP run may write. -/
theorem gpAppends_frame (X : Externals) : ResponseFrame X GpAppends where
  snapshot call snap db id db' h := ((gpWrites_frame X).snapshot call snap db id db' h).toGpAppends
  event call n e p q db db' hc h :=
    ((gpWrites_frame X).event call n e p q db db' hc h).toGpAppends
  cursor c now db db' h := by
    obtain ⟨-, rfl⟩ := Sql.advanceGpRotationCursor_ok.1 h
    exact GpAppends.withPollerState db _

/-- The turn of a record does what a GP run may do of it. -/
theorem processRecord_within (X : Externals) (record : GpRecord) :
    Proc.Within (OnDb GpWrites) (GpPoller.processRecord X record) :=
  processRecord_onDb (gpWrites_frame X) record

/-- So do the turns of several records. -/
theorem processRecords_within (X : Externals) (records : List GpRecord) :
    Proc.Within (OnDb GpWrites) (Proc.forEach (GpPoller.processRecord X) records) :=
  processRecords_onDb (gpWrites_frame X) records

/-- So does a whole response, with its cursor. -/
theorem gp_processResponse_within (X : Externals) (rotationTargetIds : List Int) (body : String) :
    Proc.Within (OnDb GpAppends) (GpPoller.processResponse X rotationTargetIds body) :=
  gp_processResponse_onDb (gpAppends_frame X) rotationTargetIds body

/-- A GP run leaves the catalogue alone. -/
theorem runGp_within (X : Externals) : Proc.Within (OnRun GpAppends) (runGp X) :=
  runGp_onRun (gpAppends_frame X)

end VitaleBackend
