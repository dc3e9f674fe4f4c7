import Mathlib.Tactic.Linarith
import VitaleBackend.Poller.Redelivery
import VitaleBackend.Poller.Stamps

/-!
# The distance between GP requests

`main` stamps the GP poller before the satcat run and sends its request after it, so the due-check
of the next process knows when the last request was decided and not when it was sent.
`gp_requests_spaced` is what it does give: a process that is not due, that starts 55 minutes after
the last request, or that finds the request no later than the stamp, keeps the distance.
-/

namespace VitaleBackend

open Process

/-! ## GET requests of the GP class -/

/-- The URL queries the `gp` class. -/
def isGpUrl (url : String) : Bool := GpPoller.kGpUrlPrefix.toList.isPrefixOf url.toList

/-- When the process sent requests of the `gp` class. -/
def Session.gpSent (s : Session) : List Timestamp := (s.sent.filter fun r => isGpUrl r.2).map (·.1)

/-- A process sends at most `n` more requests of the `gp` class, each at the time of one of its
calls. -/
structure SendsGp (n : Nat) (s s' : Session) : Prop where
  env : s'.env = s.env
  used : s.used ≤ s'.used
  sent : ∃ times, s'.gpSent = s.gpSent ++ times ∧ times.length ≤ n ∧
    ∀ t ∈ times, ∃ i, s.used ≤ i ∧ t = (s.env i).now

/-- A process that does nothing sends nothing. -/
theorem SendsGp.refl (s : Session) : SendsGp 0 s s :=
  ⟨rfl, le_refl _, [], (List.append_nil _).symm, le_refl _, List.forall_mem_nil _⟩

/-- What is sent in a row adds up. -/
theorem SendsGp.trans {m n : Nat} {s t u : Session} (h : SendsGp m s t) (h' : SendsGp n t u) :
    SendsGp (m + n) s u := by
  obtain ⟨times, hs, hlen, htimes⟩ := h.sent
  obtain ⟨times', hs', hlen', htimes'⟩ := h'.sent
  refine ⟨h'.env.trans h.env, h.used.trans h'.used, times ++ times', ?_, ?_, ?_⟩
  · rw [hs', hs, List.append_assoc]
  · rw [List.length_append]
    omega
  · intro g hg
    rcases List.mem_append.1 hg with hg | hg
    · exact htimes g hg
    · obtain ⟨i, hi, rfl⟩ := htimes' g hg
      exact ⟨i, h.used.trans hi, by rw [h.env]⟩

/-- A bound on what is sent may be raised. -/
theorem SendsGp.mono {m n : Nat} {s t : Session} (h : SendsGp m s t) (hmn : m ≤ n) :
    SendsGp n s t := by
  obtain ⟨times, hs, hlen, htimes⟩ := h.sent
  exact ⟨h.env, h.used, times, hs, hlen.trans hmn, htimes⟩

/-- The rule of sequencing adds up what is sent. -/
theorem sendsGp_bind {m n : Nat} {x : Job α} {f : α → Job β} (hx : Proc.Within (SendsGp m) x)
    (hf : ∀ a, Proc.Within (SendsGp n) (f a)) : Proc.Within (SendsGp (m + n)) (x >>= f) :=
  hx.bind_of hf (fun _ _ _ => .trans) fun _ _ h => h.mono (Nat.le_add_right m n)

/-- What sends no GET request sends none of the `gp` class. -/
theorem sendsGp_of_onDb {Q : Database → Database → Prop} {x : Job α}
    (h : Proc.Within (OnDb Q) x) : Proc.Within (SendsGp 0) x := by
  intro s
  obtain ⟨-, henv, hused, hsent⟩ := h s
  refine ⟨henv, hused, [], ?_, le_refl _, List.forall_mem_nil _⟩
  rw [Session.gpSent, hsent, List.append_nil, Session.gpSent]

/-- What is only done when a poller is due sends no more than when it is. -/
theorem sendsGp_whenDue {n : Nat} {job : Job Unit} (h : Proc.Within (SendsGp n) job) (due : Bool) :
    Proc.Within (SendsGp n) (whenDue due job) := by
  unfold whenDue
  split
  · exact h
  · exact fun s => (SendsGp.refl s).mono (Nat.zero_le n)

/-- The frame that only counts requests. -/
abbrev AnyDb : Database → Database → Prop := KeepsDb fun _ => ()

/-- A request is answered, perhaps with an error, or the process is stopped in it. -/
theorem request_cases (method url : String) (s : Session) :
    (∃ response, request method url s = (.ok (s.call.now, response), s.next)) ∨
      request method url s = (.stopped, s.next) := by
  unfold request
  split
  · exact .inr rfl
  · exact .inl ⟨_, rfl⟩
  · exact .inl ⟨_, rfl⟩

/-- One GET request. -/
theorem get_sendsGp {url : String} {n : Nat} (hn : isGpUrl url = true → 1 ≤ n) :
    Proc.Within (SendsGp n) (get url) := by
  intro s
  unfold get
  rw [Proc.bind_ok (Proc.read_run _ s)]
  split
  · rcases request_cases "GET" url s with ⟨response, h⟩ | h
    · rw [Proc.bind_ok h]
      refine ⟨rfl, Nat.le_succ _, if isGpUrl url then [s.call.now] else [], ?_, ?_, ?_⟩
      · show ((s.sent ++ [(s.call.now, url)]).filter _).map _ = _
        rw [List.filter_append, List.map_append]
        cases hu : isGpUrl url <;> simp [Session.gpSent, hu]
      · split
        · next hu => exact hn hu
        · exact Nat.zero_le n
      · intro t ht
        split at ht
        · exact ⟨s.used, le_refl _, List.mem_singleton.1 ht⟩
        · cases ht
    · rw [Proc.bind_stopped h]
      exact ⟨rfl, Nat.le_succ _, [], (List.append_nil _).symm, Nat.zero_le n, List.forall_mem_nil _⟩
  · exact (SendsGp.refl s).mono (Nat.zero_le n)

/-- A run of a poller sends at most its own query. -/
theorem run_sendsGp {p : Poller} {n : Nat}
    (h : ∀ body, Proc.Within (OnDb AnyDb) (p.processResponse body))
    (hn : ∀ url, p.buildQueryUrl = .ok url → isGpUrl url = true → 1 ≤ n) :
    Proc.Within (SendsGp n) p.run := by
  have hpure : ∀ {α : Type} (a : α), Proc.Within (SendsGp 0) (pure a : Job α) :=
    fun a s => SendsGp.refl s
  have hfetch : Proc.Within (SendsGp (0 + n)) p.fetch := by
    refine sendsGp_bind (sendsGp_of_onDb (ensureLoggedIn_onDb (Q := AnyDb) p)) fun l => ?_
    split
    · cases hurl : p.buildQueryUrl with
      | error e => exact fun s => (SendsGp.refl s).mono (Nat.zero_le n)
      | ok url =>
        rw [Proc.ofExcept_ok, pure_bind]
        refine sendsGp_bind (n := 0) (get_sendsGp (hn url hurl)) fun r => ?_
        cases r with
        | error text =>
          exact sendsGp_bind (sendsGp_of_onDb (logError_onDb (Q := AnyDb) _)) fun _ => hpure none
        | ok body => exact hpure (some body)
    · exact fun s => (SendsGp.refl s).mono (Nat.zero_le n)
  have hrun : Proc.Within (SendsGp (0 + n + 0)) p.run := by
    refine sendsGp_bind hfetch fun r => ?_
    cases r with
    | none => exact hpure ()
    | some body => exact sendsGp_of_onDb (handle_onDb h body)
  exact fun s => (hrun s).mono (by omega)

/-! ## One process -/

/-- All tables are within this frame. -/
theorem anyDb (db db' : Database) : AnyDb db db' := rfl

/-- A satcat run sends no request of the `gp` class. -/
theorem satcat_run_sendsGp (X : Externals) : Proc.Within (SendsGp 0) (satcatPoller X).run := by
  refine run_sendsGp (p := satcatPoller X) (satcat_processResponse_onDb X fun _ _ db db' _ =>
    anyDb db db') fun url hurl hgp => ?_
  cases hurl
  exact absurd hgp (by decide)

/-- A GP run sends at most one. -/
theorem runGp_sendsGp (X : Externals) : Proc.Within (SendsGp 1) (runGp X) := by
  have hquery : ∀ {α : Type} (f : Call → Database → α), Proc.Within (SendsGp 0) (query f) :=
    fun f => sendsGp_of_onDb (query_onDb (Q := AnyDb) f)
  refine sendsGp_bind (m := 0) (n := 1) (hquery _) fun hot =>
    sendsGp_bind (m := 0) (n := 1) (hquery _) fun rot => ?_
  refine run_sendsGp (p := gpPoller X hot rot) (fun body s => ?_) fun _ _ _ => le_refl 1
  have hwithin := gp_processResponse_within X rot body s
  exact ⟨anyDb _ _, hwithin.env, hwithin.used, hwithin.sent⟩

/-- A select returns what it finds, fails or is where the process is stopped. -/
theorem query_cases (f : Call → Database → α) (s : Session) :
    query f s = (.ok (f s.call s.db), s.next) ∨ (∃ e, query f s = (.error e, s.next)) ∨
      query f s = (.stopped, s.next) := by
  cases hf : s.call.fault with
  | none => exact .inl (query_run f hf)
  | fails => exact .inr (.inl ⟨_, transaction_fails hf⟩)
  | stops => exact .inr (.inr (transaction_stops hf))

/-- When the GP poller was last stamped. -/
def Database.gpLastRun (db : Database) : Option Timestamp :=
  (db.pollerState.find? "gp").map (·.lastRunAt)

/-- The least distance between two GP requests: the interval without the tolerance of the
due-check. -/
def kGpDistance : Timestamp := kGpInterval - Sql.dueTolerance

/-- A poller that is due was last stamped its distance ago. -/
theorem isPollerDue_gp {now : Timestamp} {db : Database}
    (h : Sql.isPollerDue "gp" kGpInterval now db = true) :
    ∀ t ∈ db.gpLastRun, t + kGpDistance ≤ now :=
  (Scheduled.isDue_iff (p := .gp)).1 h

/-- A process sends at most one GP request, and only when its second call, the due-check, found the
poller due. -/
theorem runPollers_sendsGp (X : Externals) (s : Session) :
    SendsGp 0 s (runPollers X s).2 ∨
      (SendsGp 1 s.next (runPollers X s).2 ∧
        Sql.isPollerDue "gp" kGpInterval s.next.call.now s.db = true) := by
  have hnext : ∀ s : Session, SendsGp 0 s s.next := fun s =>
    ⟨rfl, Nat.le_succ _, [], (List.append_nil _).symm, le_refl _, List.forall_mem_nil _⟩
  unfold runPollers DbWriter.isPollerDue
  rcases query_cases (fun call db => Sql.isPollerDue "satcat" kSatcatInterval call.now db) s with
    h | ⟨e, h⟩ | h
  · rw [Proc.bind_ok h]
    rcases query_cases (fun call db => Sql.isPollerDue "gp" kGpInterval call.now db) s.next with
      h' | ⟨e, h'⟩ | h'
    · rw [Proc.bind_ok h']
      have hmark : ∀ name due,
          Proc.Within (SendsGp 0) (whenDue due (DbWriter.markPollerRun name)) :=
        fun name due => sendsGp_whenDue (sendsGp_of_onDb (transaction_onDb fun _ db _ db' _ =>
          anyDb db db')) due
      have hsatcat := fun due => sendsGp_whenDue (satcat_run_sendsGp X) due
      cases hdue : Sql.isPollerDue "gp" kGpInterval s.next.call.now s.next.db with
      | false =>
        left
        refine ((hnext s).trans (hnext s.next)).trans (n := 0) (sendsGp_bind (n := 0) (hmark _ _)
          (fun _ => sendsGp_bind (n := 0) (hmark _ _) fun _ => sendsGp_bind (n := 0) (hsatcat _)
            fun _ => ?_) s.next.next)
        exact fun s => SendsGp.refl s
      | true =>
        refine .inr ⟨?_, hdue⟩
        exact (hnext s.next).trans (n := 1) (sendsGp_bind (n := 1) (hmark _ _)
          (fun _ => sendsGp_bind (n := 1) (hmark _ _) fun _ => sendsGp_bind (n := 1) (hsatcat _)
            fun _ => runGp_sendsGp X) s.next.next)
    · left
      rw [Proc.bind_error h']
      exact (hnext s).trans (hnext s.next)
    · left
      rw [Proc.bind_stopped h']
      exact (hnext s).trans (hnext s.next)
  · left
    rw [Proc.bind_error h]
    exact hnext s
  · left
    rw [Proc.bind_stopped h]
    exact hnext s

/-! ## Sequences of processes -/

/-- One cron invocation: when it is started, the database it finds, and what happens to its
calls. -/
structure Invocation where
  start : Timestamp
  db : Database
  env : Nat → Call

namespace Invocation

/-- The calls happen after the start, one after the other. -/
structure OnTime (p : Invocation) : Prop where
  started : ∀ i, p.start ≤ (p.env i).now
  ordered : ∀ i j, i ≤ j → (p.env i).now ≤ (p.env j).now

/-- The process when it is over. -/
def finish (X : Externals) (p : Invocation) : Session := (main X (.start p.db p.env)).2

/-- When the process sent requests of the `gp` class. -/
def gpRequests (X : Externals) (p : Invocation) : List Timestamp := (p.finish X).gpSent

/-- The process finds the GP poller due: at its second call, on the tables it started with. -/
def Due (p : Invocation) : Prop := Sql.isPollerDue "gp" kGpInterval (p.env 1).now p.db = true

/-- The process is not due, or it starts `kGpDistance` after these requests or finds a stamp that is
no older than they are. -/
def Clear (sent : List Timestamp) (p : Invocation) : Prop :=
  ¬ p.Due ∨ ∀ g ∈ sent, g + kGpDistance ≤ p.start ∨ ∃ t ∈ p.db.gpLastRun, g ≤ t

/-- A process sends at most one request, when it is due, after its start and `kGpDistance` after the
stamp it finds. -/
theorem gpRequests_cases (X : Externals) {p : Invocation} (h : p.OnTime) :
    p.gpRequests X = [] ∨ p.Due ∧ ∃ g, p.gpRequests X = [g] ∧ p.start ≤ g ∧
      ∀ t ∈ p.db.gpLastRun, t + kGpDistance ≤ g := by
  have hmain : p.gpRequests X = (runPollers X (.start p.db p.env)).2.gpSent := by
    unfold gpRequests finish main
    rw [Proc.attempt_run]
    rcases runPollers X (.start p.db p.env) with ⟨_ | _ | _, s'⟩ <;> rfl
  rw [hmain]
  rcases runPollers_sendsGp X (.start p.db p.env) with hnone | ⟨hone, hdue⟩
  · obtain ⟨times, hsent, hlen, -⟩ := hnone.sent
    left
    rw [hsent, List.eq_nil_of_length_eq_zero (Nat.le_zero.1 hlen)]
    rfl
  · obtain ⟨times, hsent, hlen, htimes⟩ := hone.sent
    rw [hsent]
    rcases times with _ | ⟨g, _ | ⟨g', times⟩⟩
    · exact .inl rfl
    · obtain ⟨i, hi, rfl⟩ := htimes g (.head _)
      refine .inr ⟨hdue, _, rfl, h.started i, fun t ht => (isPollerDue_gp hdue t ht).trans ?_⟩
      exact h.ordered 1 i hi
    · simp at hlen

/-- The step: a process that is clear of the requests before it keeps its distance to them. -/
theorem Clear.spaced {X : Externals} {p : Invocation} {sent : List Timestamp} (h : p.OnTime)
    (hclear : p.Clear sent) : ∀ g ∈ sent, ∀ g' ∈ p.gpRequests X, g + kGpDistance ≤ g' := by
  intro g hg g' hg'
  rcases gpRequests_cases X h with hnone | ⟨hdue, g₀, hone, hstart, hstamp⟩
  · rw [hnone] at hg'
    cases hg'
  · rw [hone] at hg'
    rw [List.mem_singleton.1 hg']
    rcases hclear.resolve_left (not_not_intro hdue) g hg with hle | ⟨t, ht, hle⟩
    · exact hle.trans hstart
    · exact (Int.add_le_add_right hle _).trans (hstamp t ht)

end Invocation

/-- Each process is clear of the requests of those before it. -/
def AllClear (X : Externals) : List Timestamp → List Invocation → Prop
  | _, [] => True
  | sent, p :: ps => p.Clear sent ∧ AllClear X (sent ++ p.gpRequests X) ps

/-- In every sequence of processes that are each clear of the requests before them, the GP requests
keep their distance. -/
theorem gp_requests_spaced {X : Externals} {ps : List Invocation} (htime : ∀ p ∈ ps, p.OnTime)
    (hclear : AllClear X [] ps) :
    (ps.flatMap (·.gpRequests X)).Pairwise fun g g' => g + kGpDistance ≤ g' := by
  have hrun : ∀ (ps : List Invocation) (sent : List Timestamp), (∀ p ∈ ps, p.OnTime) →
      AllClear X sent ps → sent.Pairwise (fun g g' => g + kGpDistance ≤ g') →
      (sent ++ ps.flatMap (·.gpRequests X)).Pairwise fun g g' => g + kGpDistance ≤ g' := by
    intro ps
    induction ps with
    | nil =>
      intro sent _ _ hsent
      simpa using hsent
    | cons p ps ih =>
      intro sent htime hclear hsent
      obtain ⟨hp, hps⟩ := List.forall_mem_cons.1 htime
      rw [List.flatMap_cons, ← List.append_assoc]
      refine ih _ hps hclear.2 (List.pairwise_append.2 ⟨hsent, ?_, hclear.1.spaced hp⟩)
      rcases Invocation.gpRequests_cases X hp with hnone | ⟨-, g, hone, -⟩
      · rw [hnone]
        exact .nil
      · rw [hone]
        exact List.pairwise_singleton _ _
  exact hrun ps [] htime hclear .nil

/-- A process that comes after another one: it starts at a later full hour, when that one is over,
and finds the schedule as that one left it. -/
structure Follows (X : Externals) (p q : Invocation) : Prop where
  hourly : ∃ n : Nat, 0 < n ∧ q.start = p.start + n * kGpInterval
  finished : ∀ i < (p.finish X).used, (p.env i).now ≤ q.start
  schedule : q.db.pollerState = (p.finish X).db.pollerState

/-- The GP requests of processes that cron starts every hour, and that do not overlap, keep their
distance. -/
def GpRequestsSpaced (X : Externals) : Prop :=
  ∀ ps : List Invocation, (∀ p ∈ ps, p.OnTime) → ps.IsChain (Follows X) →
    (ps.flatMap (·.gpRequests X)).Pairwise fun g g' => g + kGpDistance ≤ g'

namespace ScheduleFixture

open RotationFixture (externals)

/-- All calls but the due-checks and the stamps happen some time after the start. -/
def env (start delay : Timestamp) : Nat → Call := fun i =>
  { calmEnv start "[]" i with now := if i < 4 then start else start + delay }

/-- A process on a database without runs: both pollers are due, and the satcat run takes some
time. -/
def first (delay : Timestamp) : Invocation := ⟨0, RotationFixture.catalogue 0, env 0 delay⟩

/-- The process an hour later, which has no satcat run before its GP request. -/
def second (delay : Timestamp) : Invocation :=
  ⟨kGpInterval, ((first delay).finish externals).db, env kGpInterval 0⟩

/-- With such delays the calls happen after the start, in their order. -/
theorem env_onTime {start delay : Timestamp} (db : Database) (h : 0 ≤ delay) :
    Invocation.OnTime ⟨start, db, env start delay⟩ := by
  refine ⟨fun i => ?_, fun i j hij => ?_⟩
  · show start ≤ if i < 4 then start else start + delay
    split
    · exact le_refl _
    · linarith
  · show (if i < 4 then start else start + delay) ≤ if j < 4 then start else start + delay
    split
    · split
      · exact le_refl _
      · linarith
    · rw [if_neg (by omega)]

/-- Both processes make their calls in order. -/
theorem onTime {delay : Timestamp} (h : 0 ≤ delay) :
    ∀ p ∈ [first delay, second delay], p.OnTime := by
  refine List.forall_mem_cons.2 ⟨env_onTime _ h, List.forall_mem_singleton.2 ?_⟩
  exact env_onTime _ (le_refl _)

/-- The twenty minutes of a satcat run. -/
def minutes : Timestamp := 20 * 60 * 1000000

/-- Cron starts the second process an hour after the first, which is over by then. -/
theorem follows : Follows externals (first minutes) (second minutes) where
  hourly := ⟨1, Nat.one_pos, by decide⟩
  finished := by decide +kernel
  schedule := rfl

/-- With the slow satcat run the requests are forty minutes apart. -/
theorem slow_gpRequests :
    [first minutes, second minutes].flatMap (·.gpRequests externals) = [minutes, kGpInterval] := by
  decide +kernel

/-- With a prompt one the first request is sent at its full hour. -/
theorem prompt_gpRequests : (first 0).gpRequests externals = [0] := by decide +kernel

/-- So both processes are clear: the second starts an hour after the request of the first. -/
theorem prompt_allClear : AllClear externals [] [first 0, second 0] := by
  refine ⟨.inr (List.forall_mem_nil _), .inr fun g hg => ?_, trivial⟩
  rw [prompt_gpRequests] at hg
  rw [List.mem_singleton.1 hg]
  exact .inl (by decide)

end ScheduleFixture

open ScheduleFixture in
open RotationFixture (externals) in
/-- And their requests keep the distance. -/
theorem gp_requests_spaced_prompt :
    ([first 0, second 0].flatMap (·.gpRequests externals)).Pairwise fun g g' =>
      g + kGpDistance ≤ g' :=
  gp_requests_spaced (onTime (le_refl 0)) prompt_allClear

open ScheduleFixture in
open RotationFixture (externals) in
/-- The satcat run of the first process delays its request, and the second asks forty minutes
later. -/
theorem not_gpRequestsSpaced : ¬ GpRequestsSpaced externals := by
  intro h
  have hspaced := h [first minutes, second minutes] (onTime (by decide))
    (.cons_cons follows (.singleton _))
  rw [slow_gpRequests] at hspaced
  exact absurd hspaced (by decide)

end VitaleBackend
