import VitaleBackend.Api.Snapshots
import VitaleBackend.Poller.GpPart
import VitaleBackend.Poller.History
import VitaleBackend.Poller.Interleaved
import VitaleBackend.Poller.Listed
import VitaleBackend.Poller.Renewal
import VitaleBackend.Poller.Ticks

/-!
# From Space-Track to the API

What the services are for, put together: the cron invocations go around the catalogue, store what
Space-Track lists, and `/objects/<int>/snapshot` shows it. When so many of them succeed that the
rotation comes around, an object that is undecayed all along is shown with an element set that is no
older than what Space-Track listed for it (`elements_delivered`), whatever the other invocations
meet with and whatever is committed from then on.
-/

namespace VitaleBackend

open Process Relational

/-! ## Outside of a GP run -/

/-- What is committed outside of a GP run: rows are only added, snapshots are not, and the cursor
stays. -/
structure Idle (db db' : Database) : Prop where
  grows : db.Grows db'
  snapshots : db'.snapshots = db.snapshots
  cursor : db'.rotationCursor = db.rotationCursor

/-- Doing nothing is outside of a GP run. -/
instance : Std.Refl Idle := ⟨fun db => ⟨.refl db, rfl, rfl⟩⟩

/-- What is committed outside of a run may go on for any number of steps. -/
instance : IsTrans Database Idle where
  trans _ _ _ h h' :=
    ⟨h.grows.trans h'.grows, h'.snapshots.trans h.snapshots, h'.cursor.trans h.cursor⟩

/-- Outside of a run the promises about the stored element sets are kept: none is stored or changed.
-/
theorem Idle.holds {A : Archive} {X : Externals} {db db' : Database} (h : Idle db db')
    (hdb : A.Holds X db) : A.Holds X db' :=
  fun row hrow => hdb row (h.snapshots ▸ hrow)

/-- A stamp of a poller adds no row of `objects` or `snapshots`. -/
theorem Idle.mark (pollerName : String) (now : Timestamp) (db : Database) :
    Idle db (Sql.markPollerRun pollerName now db) :=
  ⟨⟨.refl _, List.prefix_refl _, List.prefix_refl _⟩, rfl,
    Rotations.rotationCursor_markPollerRun pollerName now db⟩

/-- A batch adds objects and leaves the snapshots as they are. -/
theorem Idle.batch {X : Externals} {call : Call} {objs : List ObjectRecord} {db db' : Database}
    {events : List DetectedEvent} (h : Sql.upsertObjectsFromSatcat X makeDefaultObjectRuleRegistry
      call objs db = .ok (events, db')) : Idle db db' := by
  have hkeeps := upsertObjectsFromSatcat_preserves
    (P := fun db' => db'.snapshots = db.snapshots ∧ db'.pollerState = db.pollerState)
    (fun _ _ _ _ hrow hp => ⟨hrow.snapshots.trans hp.1, hrow.pollerState.trans hp.2⟩) h ⟨rfl, rfl⟩
  refine ⟨(grows_frame X).batch h, hkeeps.1, ?_⟩
  unfold Database.rotationCursor
  rw [hkeeps.2]

/-- What the API commits. -/
abbrev Hits : Database → Database → Prop :=
  Relation.ReflTransGen fun db db' => ∃ noradCatId, db' = Sql.countHit noradCatId db

/-- Hits are commits of the API. -/
theorem Hits.commits {X : Externals} {db db' : Database} (h : Hits db db') : Commits X db db' := by
  induction h with
  | refl => exact .refl
  | tail _ hhit ih =>
    obtain ⟨noradCatId, rfl⟩ := hhit
    exact ih.tail (.hit noradCatId _)

/-- Hits add no object and no snapshot. -/
theorem Hits.idle {db db' : Database} (h : Hits db db') : Idle db db' := by
  induction h with
  | refl => exact refl_of Idle _
  | tail _ hhit ih =>
    obtain ⟨noradCatId, rfl⟩ := hhit
    exact trans_of Idle ih
      ⟨⟨objectsGrow_countHit noradCatId _, List.prefix_refl _, List.prefix_refl _⟩, rfl, rfl⟩

/-! ## The GP run of a process -/

/-- Up to its GP part a process does nothing but what is done outside of a GP run. -/
theorem beforeGp_idle (X : Externals) : Proc.Within (OnRun Idle) (beforeGp X) :=
  beforeGp_onRun Idle.mark (satcat_processResponse_within X fun _ _ _ _ _ h => Idle.batch h)

namespace Invocation

/-- The GP run of the process, if it comes to one. -/
def gpRun (X : Externals) (p : Invocation) : Option GpRun := (Session.start p.db p.env).gpRun X

/-- Whether the process makes a GP run that succeeds. -/
def succeeds (X : Externals) (p : Invocation) : Bool := (p.gpRun X).any (GpRun.succeeds X)

/-- A process ends with its GP run, or commits nothing but what is committed outside of one. -/
theorem gpRun_cases (X : Externals) (p : Invocation) :
    (∃ r, p.gpRun X = some r ∧ (Session.start p.db p.env).Ends X Idle r) ∨
      (p.gpRun X = none ∧ Idle p.db (p.finish X).db) :=
  VitaleBackend.gpRun_cases (beforeGp_idle X) (.start p.db p.env)

end Invocation

/-! ## Processes one after the other -/

/-- Cron invocations that do not overlap, while clients of the API look at objects in between. -/
def Cron (X : Externals) : Database → List Invocation → Database → Prop
  | db, [], db' => Hits db db'
  | db, p :: ps, db' => Hits db p.db ∧ Cron X (p.finish X).db ps db'

namespace Cron

variable {X : Externals} {db db' : Database} {ps : List Invocation}

/-- The tables that cron and the clients lead to are reached by commits. -/
theorem commits (h : Cron X db ps db') : Commits X db db' := by
  induction ps generalizing db with
  | nil => exact Hits.commits h
  | cons p ps ih =>
    have hmain : Commits X p.db (p.finish X).db := (main_commits X (.start p.db p.env)).db
    exact (Hits.commits h.1).trans (hmain.trans (ih h.2))

/-- The GP runs of the invocations are a sequence of runs. -/
theorem gpRuns (h : Cron X db ps db') : GpRuns X db.rotationCursor (ps.filterMap (·.gpRun X)) := by
  induction ps generalizing db with
  | nil => trivial
  | cons p ps ih =>
    have hrest := ih h.2
    rw [List.filterMap_cons]
    rcases p.gpRun_cases X with ⟨r, hr, hends⟩ | ⟨hr, hidle⟩ <;> rw [hr]
    · have hcursor := hends.before.cursor.trans (Hits.idle h.1).cursor
      refine ⟨hends.atRotation ▸ hcursor, hcursor, ?_⟩
      rwa [show (p.finish X).db = _ from hends.finish] at hrest
    · rwa [hidle.cursor, (Hits.idle h.1).cursor] at hrest

/-- What an invocation stores is there in the end. -/
theorem grows (h : Cron X db ps db') : ∀ p ∈ ps, (p.finish X).db.Grows db' := by
  induction ps generalizing db with
  | nil => exact List.forall_mem_nil _
  | cons p ps ih => exact List.forall_mem_cons.2 ⟨h.2.commits.grows, ih h.2⟩

/-- The tables hold element sets of the archive when all that is listed is of it. -/
theorem holds (h : Cron X db ps db') {A : Archive} (hdb : A.Holds X db)
    (hlisted : ∀ p ∈ ps, ∀ r ∈ p.gpRun X, ∀ body ∈ r.response X, ∀ rec ∈ received X body,
      rec ∈ A.records) : A.Holds X db' := by
  induction ps generalizing db with
  | nil => exact (Hits.idle h).holds hdb
  | cons p ps ih =>
    obtain ⟨hp, hps⟩ := List.forall_mem_cons.1 hlisted
    have hbefore := (Hits.idle h.1).holds hdb
    refine ih h.2 ?_ hps
    rcases p.gpRun_cases X with ⟨r, hr, hends⟩ | ⟨-, hafter⟩
    · rw [show (p.finish X).db = _ from hends.finish]
      exact GpRun.holds (hends.before.holds hbefore) (hp r hr)
    · exact hafter.holds hbefore

end Cron

/-! ## From Space-Track to the API -/

/-- What Space-Track does in a GP run for an object: it lists element sets of its archive, and in
the response to a successful request for the object one that is no older than `t`; and the run can
store all that it gets. -/
structure Serves (X : Externals) (A : Archive) (n : Int) (t : Timestamp) (r : GpRun) : Prop where
  archived : ∀ body ∈ r.response X, ∀ rec ∈ received X body, rec ∈ A.records
  lists : r.Succeeds X → n ∈ r.requested → ∃ body ∈ r.response X, ∃ rec ∈ received X body,
    rec.object.noradCatId = n ∧
      ∀ epoch, columnInput X.timestampIn rec.snapshot.epoch = .ok epoch → t ≤ epoch
  whole : r.Succeeds X → (r.finish X).counts.error = 0

/-- What a served run leaves when it requests the object. -/
theorem Serves.stores {X : Externals} {A : Archive} {n : Int} {t : Timestamp} {r : GpRun}
    (h : Serves X A n t r) (hs : r.Succeeds X) (hn : n ∈ r.requested) {db : Database}
    (hdb : A.Holds X db) (hgrows : (r.finish X).db.snapshots <+: db.snapshots) :
    ∃ row ∈ db.snapshots, row.noradCatId = n ∧ t ≤ row.epoch := by
  obtain ⟨body, hbody, rec, hrec, rfl, ht⟩ := h.lists hs hn
  have hstored := GpRun.stored hs (h.whole hs) body hbody rec hrec
  obtain ⟨row, hrow, hobject, hepoch⟩ := hdb.row (h.archived body hbody rec hrec)
    (hstored.mono hgrows)
  exact ⟨row, hrow, hobject, ht _ hepoch⟩

/-- However the catalogue changes and whatever the other invocations meet with: once there is a
successful GP run for every 300 of the objects that are undecayed at some select, the API shows an
object that is undecayed at each of them with an element set that is no older than what Space-Track
lists for it, and goes on to do so. -/
theorem elements_delivered {X : Externals} {A : Archive} {db db' : Database}
    {ps : List Invocation} (h : Cron X db ps db') (hdb : A.Holds X db) {n : Int} {t : Timestamp}
    (hserves : ∀ p ∈ ps, ∀ r ∈ p.gpRun X, Serves X A n t r) {U : Finset Int}
    (hU : ∀ p ∈ ps, ∀ r ∈ p.gpRun X, undecayedIds r.atRotation ⊆ U) (hnU : n ∈ U)
    (hn : ∀ p ∈ ps, ∀ r ∈ p.gpRun X, Undecayed r.atRotation n)
    (hcount : U.card ≤ 300 * ps.countP (Invocation.succeeds X)) {later : Database}
    (hlater : Commits X db' later) (atExists : Database) :
    ∃ row, objectSnapshot X n (.ok ()) later atExists = (SnapshotAnswer.found row).response X n ∧
      row.noradCatId = n ∧ t ≤ row.epoch := by
  have hmem : ∀ {P : GpRun → Prop}, (∀ p ∈ ps, ∀ r ∈ p.gpRun X, P r) →
      ∀ r ∈ ps.filterMap (·.gpRun X), P r := by
    intro P hP r hr
    obtain ⟨p, hp, hpr⟩ := List.mem_filterMap.1 hr
    exact hP p hp r hpr
  have hsucceed : U.card ≤ 300 * (ps.filterMap (·.gpRun X)).countP (GpRun.succeeds X) := by
    rw [List.countP_filterMap]
    refine hcount.trans (Nat.mul_le_mul_left 300 (List.countP_mono_left fun p _ hp => ?_))
    unfold Invocation.succeeds at hp
    cases hr : p.gpRun X <;> rw [hr] at hp <;> exact hp
  obtain ⟨r, hr, hs, hrequested⟩ := h.gpRuns.requests (hmem hU) (hmem hn) hnU hsucceed
  obtain ⟨p, hp, hpr⟩ := List.mem_filterMap.1 hr
  have hfinish : (r.finish X).db.Grows db' := by
    rcases p.gpRun_cases X with ⟨r', hr', hends⟩ | ⟨hnone, -⟩
    · cases hpr.symm.trans hr'
      have hgrows := h.grows p hp
      rwa [show (p.finish X).db = _ from hends.finish] at hgrows
    · cases hpr.symm.trans hnone
  have hholds := h.holds hdb fun p hp r hr => (hserves p hp r hr).archived
  obtain ⟨row, hrow, rfl, ht⟩ := (hserves p hp r hpr).stores hs hrequested hholds hfinish.snapshots
  -- what is stored is not lost, and the last snapshot is no earlier
  obtain ⟨last, hlast, hle⟩ := exists_lastSnapshotRow (hlater.grows.snapshots.subset hrow)
  refine ⟨last, ?_, (mem_of_lastSnapshotRow hlast).2, ht.trans hle⟩
  rw [objectSnapshot, respond, snapshotAnswer_found hlast]

namespace DeliveryFixture

open HistoryFixture (externals before)
open RedeliveryFixture (record)

/-- The body that both runs receive. -/
def body : String := HistoryFixture.first

/-- All that Space-Track ever gives out. -/
def archive : Archive where
  records := {record 100 "2026-08-22" 10}
  identified := by
    rintro _ rfl _ rfl -
    exact ⟨rfl, rfl⟩

/-- An invocation that loses its connection when it has stamped the schedule. -/
def first : Invocation :=
  ⟨0, before, fun i =>
    if 4 ≤ i then { calmEnv 0 body i with fault := .fails } else calmEnv 0 body i⟩

/-- The hour after, when a client has looked at the object. -/
def second : Invocation :=
  ⟨kGpInterval, Sql.countHit 5 (first.finish externals).db, calmEnv kGpInterval body⟩

/-- The tables after both invocations. -/
def after : Database := (second.finish externals).db

/-- Both invocations, one after the other, without a hit between them. -/
theorem cron : Cron externals before [first, second] after :=
  ⟨.refl, .single ⟨5, rfl⟩, .refl⟩

/-- Each of the two runs gets the body, stores what it has and finds the object in orbit. -/
theorem runs : ∀ p ∈ [first, second], ∀ r ∈ p.gpRun externals,
    r.response externals = some body ∧ (r.finish externals).counts.error = 0 ∧
      undecayedIds r.atRotation = {5} := by
  decide +kernel

/-- What is read from the body is one record, of object 5. -/
theorem received_eq : received externals body = [record 100 "2026-08-22" 10] := by
  decide +kernel

/-- So each of the runs serves the object from the archive. -/
theorem serves : ∀ p ∈ [first, second], ∀ r ∈ p.gpRun externals,
    Serves externals archive 5 0 r := by
  intro p hp r hr
  obtain ⟨hresponse, herror, -⟩ := runs p hp r hr
  have hepoch : columnInput externals.timestampIn "2026-08-22" = .ok 0 := by decide +kernel
  refine ⟨fun b hb rec hrec => ?_, fun _ _ => ⟨body, hresponse, record 100 "2026-08-22" 10, ?_,
    rfl, ?_⟩, fun _ => herror⟩
  · rw [hresponse] at hb
    cases hb
    rw [received_eq] at hrec
    exact List.mem_singleton.1 hrec
  · rw [received_eq]
    exact .head _
  · intro epoch ht
    cases hepoch.symm.trans ht
    exact le_refl _

end DeliveryFixture

open HistoryFixture (externals before) in
open DeliveryFixture in
/-- The element set is delivered after the second run. -/
theorem elements_delivered_second : ∃ row,
    objectSnapshot externals 5 (.ok ()) after after =
      (SnapshotAnswer.found row).response externals 5 ∧ row.noradCatId = 5 ∧ 0 ≤ row.epoch :=
  elements_delivered cron (List.forall_mem_nil _) serves (U := {5})
    (fun p hp r hr => (runs p hp r hr).2.2.subset) (Finset.mem_singleton_self 5)
    (fun p hp r hr => mem_undecayedIds.1 ((runs p hp r hr).2.2 ▸ Finset.mem_singleton_self 5))
    (by decide +kernel) .refl after

end VitaleBackend
