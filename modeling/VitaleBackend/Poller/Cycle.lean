import VitaleBackend.Poller.Commits
import VitaleBackend.Poller.Request

/-!
# Whether a poller cycle throws

`Poller::run` has one handler, around `process_response`; what is thrown before it gets to the
caller. Of what comes before it only `build_query_url` of the GP poller throws, when there is
nothing to ask for, and it is reached only when the process is logged in (`Poller.run_throws_iff`).
-/

namespace VitaleBackend

open Process Relational

/-! ## What throws -/

/-- Writing to the log throws nothing. -/
theorem logError_noThrow (line : String) : Proc.NoThrow (logError line) := .modify _

/-- A request that fails is answered with an error. -/
theorem request_noThrow (method url : String) : Proc.NoThrow (request method url) := by
  intro s e
  unfold request
  split <;> exact nofun

/-- Neither does the login throw, whatever the answer to it. -/
theorem login_noThrow : Proc.NoThrow login := by
  refine (request_noThrow _ _).bind fun r => ?_
  rcases r with ⟨_, _ | body⟩
  · exact .pure _
  · dsimp only
    split
    · exact .pure _
    · exact (Proc.NoThrow.modify _).bind fun _ => .pure _

/-- A GET request throws nothing. -/
theorem get_noThrow (url : String) : Proc.NoThrow (get url) := by
  refine (Proc.NoThrow.read _).bind fun l => ?_
  split
  · exact (request_noThrow _ _).bind fun _ => (Proc.NoThrow.modify _).bind fun _ => .pure _
  · exact .pure _

/-- The process is logged in, or its login succeeds. -/
def LogsIn (s : Session) : Prop := s.loggedIn = true ∨ (login s).1 = .ok (.ok ())

namespace Poller

/-- `ensure_logged_in` throws nothing either: it logs the error of a login. -/
theorem ensureLoggedIn_noThrow (p : Poller) : Proc.NoThrow p.ensureLoggedIn := by
  refine (Proc.NoThrow.read _).bind fun l => ?_
  split
  · exact .pure _
  · refine login_noThrow.bind fun r => ?_
    cases r with
    | error text => exact (logError_noThrow _).bind fun _ => .pure _
    | ok u => exact .pure _

/-- `handle` catches what the handler of the response throws. -/
theorem handle_noThrow (p : Poller) (body : String) : Proc.NoThrow (p.handle body) :=
  .attempt fun _ => logError_noThrow _

/-- `ensure_logged_in` returns true exactly when the process is logged in by then. -/
theorem ensureLoggedIn_iff (p : Poller) (s : Session) :
    (p.ensureLoggedIn s).1 = .ok true ↔ LogsIn s := by
  unfold ensureLoggedIn LogsIn
  rw [Proc.bind_ok (Proc.read_run _ s)]
  cases hl : s.loggedIn with
  | true => exact iff_of_true rfl (.inl rfl)
  | false =>
    rw [or_iff_right (by simp), if_neg (by simp), Proc.bind_run]
    rcases login s with ⟨(text | u) | e | _, s'⟩
    · exact ⟨nofun, nofun⟩
    · exact iff_of_true rfl rfl
    · exact ⟨nofun, nofun⟩
    · exact ⟨nofun, nofun⟩

/-- A fetch throws exactly what `build_query_url` throws, once the process is logged in. -/
theorem fetch_throws_iff (p : Poller) (s : Session) (e : Exn) :
    (p.fetch s).1 = .error e ↔ p.buildQueryUrl = .error e ∧ LogsIn s := by
  rw [← p.ensureLoggedIn_iff s]
  refine p.ensureLoggedIn_noThrow.bind_error_iff.trans ?_
  constructor
  · rintro ⟨l, s', hl, h⟩
    cases l with
    | false => cases h
    | true =>
      rw [if_pos rfl] at h
      cases hurl : p.buildQueryUrl with
      | error e' =>
        rw [hurl] at h
        cases h
        exact ⟨rfl, congrArg Prod.fst hl⟩
      | ok url =>
        rw [hurl, Proc.ofExcept_ok, pure_bind] at h
        refine absurd h ((get_noThrow url).bind (fun r => ?_) s' e)
        cases r with
        | error text => exact (logError_noThrow _).bind fun _ => .pure _
        | ok body => exact .pure _
  · rintro ⟨hurl, hl⟩
    refine ⟨true, (p.ensureLoggedIn s).2, Prod.ext hl rfl, ?_⟩
    rw [if_pos rfl, hurl]
    rfl

/-- A cycle throws what its fetch throws. -/
theorem run_throws_iff (p : Poller) (s : Session) (e : Exn) :
    (p.run s).1 = .error e ↔ p.buildQueryUrl = .error e ∧ LogsIn s := by
  unfold run
  refine (Proc.NoThrow.error_bind_iff fun r => ?_).trans (p.fetch_throws_iff s e)
  cases r with
  | none => exact .pure _
  | some body => exact p.handle_noThrow body

end Poller

/-! ## The request of a cycle -/

namespace GpRun

/-- A request is empty exactly when nothing in the catalogue is undecayed. -/
theorem requested_eq_nil_iff {r : GpRun} (hsame : r.atHot = r.atRotation) :
    r.requested = [] ↔ ∀ x, ¬ Undecayed r.atRotation x := by
  constructor
  · intro hnil x hx
    by_cases hw : r.Wraps
    · have hhot : r.hotTargets = [] := (List.append_eq_nil_iff.1 hnil).1
      have hrot : r.rotationTargets = [] := (List.append_eq_nil_iff.1 hnil).2
      rw [rotationTargets_wrap hw] at hrot
      have hwrap := length_wrapTargets hw
      have hprimary := primaryTargets_length hw
      have hroom := hotTargets_add_batchSize r
      have hrest : 0 < r.rest.card := Finset.card_pos.2 ⟨x, mem_rest.2 ⟨hx, by simp [hhot]⟩⟩
      rw [(List.append_eq_nil_iff.1 hrot).1, List.length_nil] at hprimary
      rw [(List.append_eq_nil_iff.1 hrot).2, ← hprimary, List.length_nil] at hwrap
      rw [hhot, List.length_nil, kGpBatchSize] at hroom
      omega
    · have hlen := (wellRequested_full hsame hw).1.length
      have hmany := (wellRequested_full hsame hw).2
      rw [hnil, List.length_nil, Nat.min_eq_left hmany] at hlen
      cases hlen
  · intro hnone
    exact List.eq_nil_iff_forall_not_mem.2 fun x hx => hnone x (requested_undecayed hsame x hx)

/-- `build_query_url` throws for an empty request only. -/
theorem buildQueryUrl_throws_iff (X : Externals) (r : GpRun) :
    (∃ e, (r.poller X).buildQueryUrl = .error e) ↔ r.requested = [] := by
  show (∃ e, GpPoller.buildQueryUrl r.hotTargets r.rotationTargets = .error e) ↔ _
  rw [requested, List.append_eq_nil_iff, GpPoller.buildQueryUrl]
  split
  · next h => exact iff_of_true ⟨_, rfl⟩ h
  · next h =>
    refine iff_of_false ?_ h
    rintro ⟨e, ⟨⟩⟩

end GpRun

/-! ## The cycles of a process -/

/-- What `poller_base.hpp` promises of the two cycles of a process, whose GP poller has the targets
that the tables give: neither throws, and what is thrown over a response is logged. -/
structure CyclesReturn (X : Externals) (s : Session) : Prop where
  satcat : ∀ e, ((satcatPoller X).run s).1 ≠ .error e
  gp : ∀ e, (((GpRun.on s).poller X).run s).1 ≠ .error e
  logged : ∀ p ∈ [satcatPoller X, (GpRun.on s).poller X], ∀ body t e,
    (p.processResponse body t).1 = .error e → (p.handle body t).2.cerr =
      (p.processResponse body t).2.cerr ++
        [p.name ++ " poller: processing response failed: " ++ e.what]

/-- What is thrown over a response is logged. -/
theorem Poller.handle_logs (p : Poller) {body : String} {t : Session} {e : Exn}
    (h : (p.processResponse body t).1 = .error e) : (p.handle body t).2.cerr =
      (p.processResponse body t).2.cerr ++
        [p.name ++ " poller: processing response failed: " ++ e.what] := by
  unfold Poller.handle
  rw [Proc.attempt_run]
  rcases hp : p.processResponse body t with ⟨a | e' | _, t'⟩ <;> rw [hp] at h <;> cases h
  rfl

/-- The cycles of a process keep the promise exactly when something in the catalogue is undecayed,
or the process is not logged in and its login fails. -/
theorem cycles_return_iff (X : Externals) (s : Session) :
    CyclesReturn X s ↔ (∃ x, Undecayed s.db x) ∨ ¬ LogsIn s := by
  have hthrows : (∃ e, (((GpRun.on s).poller X).run s).1 = .error e) ↔
      (∀ x, ¬ Undecayed s.db x) ∧ LogsIn s := by
    simp only [Poller.run_throws_iff, exists_and_right]
    rw [GpRun.buildQueryUrl_throws_iff]
    exact and_congr_left fun _ => GpRun.requested_eq_nil_iff rfl
  constructor
  · intro h
    by_contra hno
    rw [not_or, not_exists, not_not] at hno
    obtain ⟨e, he⟩ := hthrows.2 hno
    exact h.gp e he
  · intro h
    refine ⟨fun e he => ?_, fun e he => ?_, fun p _ body t e he => p.handle_logs he⟩
    · exact absurd ((Poller.run_throws_iff _ s e).1 he).1 nofun
    · obtain ⟨hnone, hl⟩ := hthrows.1 ⟨e, he⟩
      rcases h with ⟨x, hx⟩ | hnot
      · exact hnone x hx
      · exact hnot hl

/-- The cycles of every process on reachable tables keep the promise. -/
def CyclesAlwaysReturn (X : Externals) : Prop := ∀ s, Reachable X s.db → CyclesReturn X s

/-- The first process on the migrated database that can log in, when the catalogue is still
empty. -/
theorem not_cyclesAlwaysReturn : ¬ CyclesAlwaysReturn RotationFixture.externals := by
  intro h
  have hgp := (h (.start .empty (calmEnv 0 "[]")) .refl).gp
    (.runtimeError "GpPoller has no target NORAD IDs configured")
  exact hgp ((Poller.run_throws_iff _ _ _).2 ⟨rfl, .inr (by decide +kernel)⟩)

end VitaleBackend
