import VitaleBackend.Db.Database
import VitaleBackend.Lib.Proc

/-!
# A poller process

The state of one run of the poller binary: the database it is connected to, its Space-Track session,
and what the environment does to each of its external calls in turn. A call of a `DbWriter` method
is one transaction, which commits, fails and leaves the tables as they were, or never happens
because the process was stopped.
-/

namespace VitaleBackend

open Process

/-- Whether an external call goes through, fails, or is where the process stops. -/
inductive Fault where
  | none | fails | stops
  deriving Repr, DecidableEq

/-- What a request comes back with: a status and a body. -/
structure HttpReply where
  status : Int
  body : String

/-- What the environment does to one external call: when it happens, whether it goes through, how
many generated ids other inserts drew and did not store, and what Space-Track answers at an URL (the
error text of libcurl otherwise). -/
structure Call where
  now : Timestamp
  fault : Fault
  gap : Nat
  reply : String → Except String HttpReply

/-- Every call goes through, at one time, and every request is answered with one body. -/
def calmEnv (now : Timestamp) (body : String) : Nat → Call := fun _ =>
  ⟨now, .none, 0, fun _ => .ok ⟨200, body⟩⟩

/-- No external call fails. -/
def Calm (env : Nat → Call) : Prop := ∀ i, (env i).fault = .none

/-- Nothing fails in such an environment. -/
theorem calmEnv_calm (now : Timestamp) (body : String) : Calm (calmEnv now body) := fun _ => rfl

/-- The counters of `GpPoller::process_response`. -/
structure Counts where
  inserted : Nat := 0
  unchanged : Nat := 0
  error : Nat := 0
  deriving Repr, DecidableEq

/-- The state of one process. `sent` lists the GET requests it put on the wire, `cerr` what it wrote
to the error log. -/
structure Session where
  db : Database
  env : Nat → Call
  used : Nat := 0
  loggedIn : Bool := false
  sent : List (Timestamp × String) := []
  counts : Counts := {}
  cerr : List String := []

/-- What a process does: it reads and writes the session, and may throw or be stopped. -/
abbrev Job (α : Type) := Proc Session Exn α

namespace Session

/-- The environment of the next external call. -/
def call (s : Session) : Call := s.env s.used

/-- The process right after that call. -/
def next (s : Session) : Session := { s with used := s.used + 1 }

@[simp] theorem next_db (s : Session) : s.next.db = s.db := rfl
@[simp] theorem next_env (s : Session) : s.next.env = s.env := rfl
@[simp] theorem next_used (s : Session) : s.next.used = s.used + 1 := rfl
@[simp] theorem next_counts (s : Session) : s.next.counts = s.counts := rfl
@[simp] theorem next_sent (s : Session) : s.next.sent = s.sent := rfl
@[simp] theorem next_loggedIn (s : Session) : s.next.loggedIn = s.loggedIn := rfl

end Session

/-- `std::cerr << line << '\n'`. -/
def logError (line : String) : Job Unit := Proc.modify fun s => { s with cerr := s.cerr ++ [line] }

/-- The text of an exception. Those of third-party code are not kept. -/
def Exn.what : Exn → String
  | .runtimeError what => what
  | _ => ""

/-- `pqxx::work`: the statements run on the tables as they are, and what they did is kept when all
of them succeeded. -/
def transaction (body : Call → Database → Except Exn (α × Database)) : Job α := fun s =>
  match s.call.fault with
  | .stops => (.stopped, s.next)
  | .fails => (.error .db, s.next)
  | .none =>
    match body s.call s.db with
    | .ok (a, db) => (.ok a, { s.next with db := db })
    | .error e => (.error e, s.next)

/-- A transaction that only reads. -/
def query (f : Call → Database → α) : Job α := transaction fun call db => .ok (f call db, db)

section
variable {body : Call → Database → Except Exn (α × Database)} {s : Session}

/-- A transaction that goes through and succeeds is committed. -/
theorem transaction_ok {a : α} {db : Database} (hf : s.call.fault = .none)
    (h : body s.call s.db = .ok (a, db)) :
    transaction body s = (.ok a, { s.next with db := db }) := by
  rw [transaction, hf]
  simp only [h]

/-- A transaction that goes through and fails is rolled back. -/
theorem transaction_error {e : Exn} (hf : s.call.fault = .none) (h : body s.call s.db = .error e) :
    transaction body s = (.error e, s.next) := by
  rw [transaction, hf]
  simp only [h]

/-- A transaction whose call fails changes nothing but the number of calls. -/
theorem transaction_fails (hf : s.call.fault = .fails) :
    transaction body s = (.error .db, s.next) := by
  rw [transaction, hf]

/-- Neither does one in which the process is stopped. -/
theorem transaction_stops (hf : s.call.fault = .stops) :
    transaction body s = (.stopped, s.next) := by
  rw [transaction, hf]

/-- All that a transaction can do: commit, or leave the tables as they were. -/
theorem transaction_cases (body : Call → Database → Except Exn (α × Database)) (s : Session) :
    (s.call.fault = .none ∧ ∃ a db, body s.call s.db = .ok (a, db) ∧
      transaction body s = (.ok a, { s.next with db := db })) ∨
    (s.call.fault ≠ .stops ∧ ∃ e, transaction body s = (.error e, s.next)) ∨
    (s.call.fault = .stops ∧ transaction body s = (.stopped, s.next)) := by
  cases hf : s.call.fault with
  | stops => exact .inr (.inr ⟨rfl, transaction_stops hf⟩)
  | fails => exact .inr (.inl ⟨by simp, _, transaction_fails hf⟩)
  | none =>
    cases hb : body s.call s.db with
    | error e => exact .inr (.inl ⟨by simp, e, transaction_error hf hb⟩)
    | ok r => exact .inl ⟨rfl, r.1, r.2, rfl, transaction_ok hf hb⟩

/-- A transaction that returns was committed. -/
theorem transaction_eq_ok {a : α} {s' : Session} : transaction body s = (.ok a, s') ↔
    s.call.fault = .none ∧
      ∃ db, body s.call s.db = .ok (a, db) ∧ s' = { s.next with db := db } := by
  rcases transaction_cases body s with ⟨hf, b, db, hb, h⟩ | ⟨hf, e, h⟩ | ⟨hf, h⟩
  · rw [h, hb]
    refine ⟨?_, ?_⟩
    · rintro ⟨⟩
      exact ⟨hf, db, rfl, rfl⟩
    · rintro ⟨-, _, ⟨⟩, rfl⟩
      rfl
  · rw [h]
    refine ⟨nofun, ?_⟩
    rintro ⟨hf', db, hb, -⟩
    rw [transaction_ok hf' hb] at h
    cases h
  · rw [h, hf]
    exact ⟨nofun, fun h => nomatch h.1⟩

/-- The rule of frames for a transaction: what holds of the call and of every committed change. -/
theorem transaction_within {R : Session → Session → Prop} (hnext : ∀ s, R s s.next)
    (hbody : ∀ s : Session, ∀ a db, body s.call s.db = .ok (a, db) → R s { s.next with db := db }) :
    Proc.Within R (transaction body) := by
  intro s
  rcases transaction_cases body s with ⟨-, a, db, hb, h⟩ | ⟨-, e, h⟩ | ⟨-, h⟩ <;> rw [h]
  · exact hbody s a db hb
  · exact hnext s
  · exact hnext s

/-- A select whose call goes through returns what it finds. -/
theorem query_run (f : Call → Database → α) (hf : s.call.fault = .none) :
    query f s = (.ok (f s.call s.db), s.next) :=
  transaction_ok hf rfl

/-- A select that returns was a call that went through. -/
theorem query_eq_ok {f : Call → Database → α} {a : α} {s' : Session} :
    query f s = (.ok a, s') ↔ s.call.fault = .none ∧ a = f s.call s.db ∧ s' = s.next := by
  refine transaction_eq_ok.trans (and_congr_right fun hf => ⟨?_, ?_⟩)
  · rintro ⟨_, ⟨⟩, rfl⟩
    exact ⟨rfl, rfl⟩
  · rintro ⟨rfl, rfl⟩
    exact ⟨s.db, rfl, rfl⟩

end

/-! ## `SpaceTrackClient` -/

/-- `text.find(part) != std::string::npos`. -/
def containsText (text part : String) : Bool := text.toList.tails.any part.toList.isPrefixOf

/-- The URL of `login()`. -/
def loginUrl : String := "https://www.space-track.org/ajaxauth/login"

/-- A reply whose status is not 2xx is an error. -/
def checkStatus (url : String) (reply : HttpReply) : Except String String :=
  if reply.status < 200 ∨ 300 ≤ reply.status then
    .error ("unexpected HTTP status " ++ toString reply.status ++ " for " ++ url)
  else .ok reply.body

/-- One request: its time, and the body or the error text. -/
def request (method url : String) : Job (Timestamp × Except String String) := fun s =>
  match s.call.fault with
  | .stops => (.stopped, s.next)
  | .fails => (.ok (s.call.now, .error ("curl " ++ method ++ " failed: ")), s.next)
  | .none => (.ok (s.call.now, match s.call.reply url with
      | .error text => .error ("curl " ++ method ++ " failed: " ++ text)
      | .ok reply => checkStatus url reply), s.next)

/-- `login()`: Space-Track answers 200 also to bad credentials, so that the body is checked too. -/
def login : Job (Except String Unit) := do
  let (_, response) ← request "POST" loginUrl
  match response with
  | .error text => return .error text
  | .ok body =>
    if containsText body "\"Login\"" || containsText body "Failed" then
      return .error ("Space-Track login rejected: " ++ body)
    else do
      Proc.modify fun s => { s with loggedIn := true }
      return .ok ()

/-- `get(url)`. -/
def get (url : String) : Job (Except String String) := do
  if ← Proc.read (·.loggedIn) then
    let (time, response) ← request "GET" url
    Proc.modify fun s => { s with sent := s.sent ++ [(time, url)] }
    return response
  else return .error "get() called before a successful login()"

end VitaleBackend
