import Mathlib.Data.Int.ConditionallyCompleteOrder
import Mathlib.Order.WithBot
import VitaleBackend.Lib.Moments
import VitaleBackend.Poller.Growth
import VitaleBackend.Poller.Rotation

/-!
# `/objects/<int>/snapshot`

The handler selects the last snapshot, and only when there is none it looks whether the object is
there, in a second statement that sees what was committed since. Its answer is still the one of a
single moment (`snapshotAnswer_atomic`): an object and its first snapshot are committed apart. So
the answers for an object only go forward, from no object to no snapshot to snapshots that do not
get older (`snapshots_readInOrder`).
-/

namespace VitaleBackend

open Relational Moments

/-! ## The handler -/

/-- A response: its status and its body. -/
structure JsonResponse where
  code : Nat
  body : Json

/-- `crow::response(code, error)` with `error["error"] = text`. -/
def errorResponse (code : Nat) (text : String) : JsonResponse := ⟨code, .obj [("error", .str text)]⟩

/-- The `try` block of a handler: `conn` is the exception of its connection, if there is one. -/
def respond (conn : Except Exn Unit) (response : JsonResponse) : JsonResponse :=
  match conn with
  | .ok () => response
  | .error e => errorResponse 500 e.what

/-- `snapshot_row_to_json`. -/
def snapshotRowToJson (X : Externals) (row : SnapshotRow) : Json :=
  .obj
    [("id", .num (.fin row.id)),
      ("gp_id", .num (.fin row.gpId)),
      ("epoch", .str (X.timestampOut row.epoch)),
      ("fetched_at", .str (X.timestampOut row.fetchedAt)),
      ("mean_motion", .num row.meanMotion),
      ("eccentricity", .num row.eccentricity),
      ("inclination", .num row.inclination),
      ("ra_of_asc_node", .num row.raOfAscNode),
      ("arg_of_pericenter", .num row.argOfPericenter),
      ("mean_anomaly", .num row.meanAnomaly),
      ("semimajor_axis", .num row.semimajorAxis),
      ("period", .num row.period),
      ("apoapsis", .num row.apoapsis),
      ("periapsis", .num row.periapsis),
      ("bstar", .num row.bstar),
      ("mean_motion_dot", .num row.meanMotionDot),
      ("mean_motion_ddot", .num row.meanMotionDdot),
      ("element_set_no", .num (.fin row.elementSetNo)),
      ("rev_at_epoch", .num (.fin row.revAtEpoch)),
      ("tle_line0", .str row.tleLine0),
      ("tle_line1", .str row.tleLine1),
      ("tle_line2", .str row.tleLine2)]

/-- What the statements of the handler find. -/
inductive SnapshotAnswer where
  | noObject
  | noSnapshot
  | found (row : SnapshotRow)

/-- Both statements, each on the tables that it sees. -/
def snapshotAnswer (noradCatId : Int) (atSelect atExists : Database) : SnapshotAnswer :=
  match Sql.lastSnapshotRow atSelect.snapshots noradCatId with
  | some row => .found row
  | none => if (atExists.objects.find? noradCatId).isSome then .noSnapshot else .noObject

namespace SnapshotAnswer

/-- What the handler makes of its answer: the number of the object is added to the columns of the
snapshot. -/
def response (X : Externals) (noradCatId : Int) : SnapshotAnswer → JsonResponse
  | noObject => errorResponse 404 "object not found"
  | noSnapshot => errorResponse 404 "no snapshot data available for this object"
  | found row =>
    ⟨200, (snapshotRowToJson X row).insert "norad_cat_id" (.num (.fin noradCatId))⟩

/-- How far an object has come: not there, without a snapshot, or with one of some epoch. -/
def progress : SnapshotAnswer → WithBot (WithBot Timestamp)
  | noObject => ⊥
  | noSnapshot => ((⊥ : WithBot Timestamp) : WithBot (WithBot Timestamp))
  | found row => ((row.epoch : WithBot Timestamp) : WithBot (WithBot Timestamp))

end SnapshotAnswer

/-- The handler. -/
def objectSnapshot (X : Externals) (noradCatId : Int) (conn : Except Exn Unit)
    (atSelect atExists : Database) : JsonResponse :=
  respond conn ((snapshotAnswer noradCatId atSelect atExists).response X noradCatId)

/-! ## What is found -/

section
variable {n : Int} {db a b : Database} {row : SnapshotRow}

/-- A row is found exactly when its number is one of those in the catalogue. -/
theorem find?_isSome_iff : (db.objects.find? n).isSome = true ↔ n ∈ db.objects.keys := by
  rw [Option.isSome_iff_ne_none, ne_eq, Table.find?_eq_none, not_not]

/-- Where the first statement finds a row, the second is not executed. -/
theorem snapshotAnswer_found (h : Sql.lastSnapshotRow a.snapshots n = some row) :
    snapshotAnswer n a b = .found row := by
  rw [snapshotAnswer, h]

/-- Without a row, the second statement finds an object that is stored but has no snapshots. -/
theorem snapshotAnswer_noSnapshot (h : Sql.lastSnapshotRow a.snapshots n = none)
    (hn : n ∈ b.objects.keys) : snapshotAnswer n a b = .noSnapshot := by
  rw [snapshotAnswer, h]
  exact if_pos (find?_isSome_iff.2 hn)

/-- Without a row of the object itself, the second statement finds nothing, and the answer is a 404.
-/
theorem snapshotAnswer_noObject (h : Sql.lastSnapshotRow a.snapshots n = none)
    (hn : n ∉ b.objects.keys) : snapshotAnswer n a b = .noObject := by
  rw [snapshotAnswer, h]
  exact if_neg fun hsome => hn (find?_isSome_iff.1 hsome)

/-- An object that is not there has no snapshot. -/
theorem lastSnapshotRow_of_not_mem (hn : n ∉ db.objects.keys) :
    Sql.lastSnapshotRow db.snapshots n = none := by
  refine lastSnapshotRow_eq_none.2 fun row hrow heq => hn ?_
  exact heq ▸ db.snapshot_objects row hrow

/-- An object with a snapshot stored has a last one, which is no earlier. -/
theorem exists_lastSnapshotRow (h : row ∈ db.snapshots) : ∃ last,
    Sql.lastSnapshotRow db.snapshots row.noradCatId = some last ∧ row.epoch ≤ last.epoch := by
  cases hlast : Sql.lastSnapshotRow db.snapshots row.noradCatId with
  | none => exact absurd rfl (lastSnapshotRow_eq_none.1 hlast row h)
  | some last => exact ⟨last, rfl, lastSnapshotRow_le hlast row h rfl⟩

end

/-! ## Amid commits -/

section
variable {X : Externals} {n : Int} {db db' a b : Database} {l : List Database}

/-- A commit that brings an object leaves the snapshots alone. -/
theorem Commit.snapshots_of_new (h : Commit X db db') (hn : n ∉ db.objects.keys)
    (hn' : n ∈ db'.objects.keys) : db'.snapshots = db.snapshots := by
  cases h with
  | batch h =>
    exact upsertObjectsFromSatcat_preserves (P := fun db' => db'.snapshots = db.snapshots)
      (fun _ _ _ _ hrow hp => hrow.snapshots.trans hp) h rfl
  | snapshot h =>
    obtain ⟨row, -, -, ha, rfl⟩ := Sql.insertSnapshot_ok.1 h
    exact absurd hn' hn
  | event h =>
    obtain ⟨ha, rfl⟩ := Sql.insertEvent_ok.1 h
    rfl
  | stamp pollerName now => rfl
  | cursor h =>
    obtain ⟨-, rfl⟩ := Sql.advanceGpRotationCursor_ok.1 h
    rfl
  | hit noradCatId => rfl

/-- Whatever commits between the two statements, the answer is the one of a moment between them. -/
theorem snapshotAnswer_atomic (h : Visits (Commit X) a l b) (n : Int) :
    ∃ c ∈ l, snapshotAnswer n a b = snapshotAnswer n c c := by
  cases hlast : Sql.lastSnapshotRow a.snapshots n with
  | some row =>
    exact ⟨a, h.first_mem, by rw [snapshotAnswer_found hlast, snapshotAnswer_found hlast]⟩
  | none =>
    by_cases hb : n ∈ b.objects.keys
    · rw [snapshotAnswer_noSnapshot hlast hb]
      by_cases ha : n ∈ a.objects.keys
      · exact ⟨a, h.first_mem, (snapshotAnswer_noSnapshot hlast ha).symm⟩
      · -- the commit that brings the object brings no snapshot of it
        obtain ⟨c, -, d, hd, hcommit, hc, hd'⟩ :=
          h.exists_crossing (p := fun db => n ∈ db.objects.keys) ha hb
        have hnone : Sql.lastSnapshotRow d.snapshots n = none := by
          rw [hcommit.snapshots_of_new hc hd']
          exact lastSnapshotRow_of_not_mem hc
        exact ⟨d, hd, (snapshotAnswer_noSnapshot hnone hd').symm⟩
    · have ha : n ∉ a.objects.keys :=
        fun ha => hb ((Commits.grows h.reflTransGen).objects.mem_keys ha)
      refine ⟨a, h.first_mem, ?_⟩
      rw [snapshotAnswer_noObject hlast hb, snapshotAnswer_noObject hlast ha]

/-- No commit sets an object back. -/
theorem progress_mono (h : db.Grows db') (n : Int) :
    (snapshotAnswer n db db).progress ≤ (snapshotAnswer n db' db').progress := by
  cases hlast : Sql.lastSnapshotRow db.snapshots n with
  | some row =>
    obtain ⟨hrow, rfl⟩ := mem_of_lastSnapshotRow hlast
    obtain ⟨row', hlast', hle⟩ := exists_lastSnapshotRow (h.snapshots.subset hrow)
    rw [snapshotAnswer_found hlast, snapshotAnswer_found hlast']
    exact WithBot.coe_le_coe.2 (WithBot.coe_le_coe.2 hle)
  | none =>
    by_cases hn : n ∈ db.objects.keys
    · rw [snapshotAnswer_noSnapshot hlast hn]
      cases hlast' : Sql.lastSnapshotRow db'.snapshots n with
      | some row' =>
        rw [snapshotAnswer_found hlast']
        exact WithBot.coe_le_coe.2 bot_le
      | none =>
        rw [snapshotAnswer_noSnapshot hlast' (h.objects.mem_keys hn)]
    · rw [snapshotAnswer_noObject hlast hn]
      exact bot_le

end

/-! ## The requests of a client -/

/-- A request for the snapshot of an object, and the tables that its statements see. -/
structure SnapshotRead where
  atSelect : Database
  atExists : Database

/-- The answer to a request. -/
def SnapshotRead.answer (noradCatId : Int) (q : SnapshotRead) : SnapshotAnswer :=
  snapshotAnswer noradCatId q.atSelect q.atExists

/-- What a client can rely on: an answer is the one of a moment between its two statements and not
behind a snapshot that was stored when it was asked for, and the answers only go forward. -/
structure ReadInOrder (X : Externals) (noradCatId : Int) (qs : List SnapshotRead) : Prop where
  atomic : ∀ q ∈ qs, At (Commit X) q.atSelect q.atExists
    (fun db => snapshotAnswer noradCatId db db) (q.answer noradCatId)
  fresh : ∀ q ∈ qs, ∀ row ∈ q.atSelect.snapshots, row.noradCatId = noradCatId →
    ∃ row', q.answer noradCatId = .found row' ∧ row'.noradCatId = noradCatId ∧
      row.epoch ≤ row'.epoch
  ordered : (qs.map fun q => (q.answer noradCatId).progress).Pairwise (· ≤ ·)

/-- However the commits of the services come between the statements of a client's requests, the
client reads the snapshots of an object in order. -/
theorem snapshots_readInOrder {X : Externals} {qs : List SnapshotRead}
    (h : IsSession (Commit X) SnapshotRead.atSelect SnapshotRead.atExists qs) (n : Int) :
    ReadInOrder X n qs := by
  have hat : ∀ q ∈ qs, At (Commit X) q.atSelect q.atExists (fun db => snapshotAnswer n db db)
      (q.answer n) := by
    intro q hq
    obtain ⟨l, hl⟩ := exists_visits (h.lasts q hq)
    obtain ⟨c, hc, hanswer⟩ := snapshotAnswer_atomic hl n
    exact ⟨c, (hl.reaches hc).1, (hl.reaches hc).2, hanswer⟩
  refine ⟨hat, fun q _ row hrow hn => ?_, ?_⟩
  · subst hn
    obtain ⟨last, hlast, hle⟩ := exists_lastSnapshotRow hrow
    exact ⟨last, snapshotAnswer_found hlast, (mem_of_lastSnapshotRow hlast).2, hle⟩
  · refine h.answers_pairwise (f := fun db => (snapshotAnswer n db db).progress)
      (fun db db' hcommit => progress_mono ((grows_frame X).commit hcommit) n) fun q hq => ?_
    obtain ⟨c, hc, hc', hanswer⟩ := hat q hq
    exact ⟨c, hc, hc', congrArg _ hanswer⟩

namespace SnapshotsFixture

/-- The one time that Postgres is asked to convert. -/
def externals : Externals := .ofTables [] [] [("1958-03-17", 0)]

/-- The catalogue of one object, before its first snapshot. -/
def before : Database := RotationFixture.catalogue 0

/-- A snapshot with nothing but its number, its id and its time. -/
def snapshot : Snapshot := { noradCatId := 5, gpId := 1, epoch := "1958-03-17" }

/-- The row of the snapshot. -/
def row : SnapshotRow where
  id := 1
  noradCatId := 5
  gpId := 1
  epoch := 0
  fetchedAt := 0
  meanMotion := 0
  eccentricity := 0
  inclination := 0
  raOfAscNode := 0
  argOfPericenter := 0
  meanAnomaly := 0
  semimajorAxis := 0
  period := 0
  apoapsis := 0
  periapsis := 0
  bstar := 0
  meanMotionDot := 0
  meanMotionDdot := 0
  elementSetNo := 0
  revAtEpoch := 0
  tleLine0 := ""
  tleLine1 := ""
  tleLine2 := ""

/-- The object is there, and neither the id nor the `gp_id` is in use. -/
theorem allowed : before.SnapshotAllowed row := by decide +kernel

/-- The tables after the snapshot is stored. -/
def after : Database := before.addSnapshot row allowed

/-- The snapshot is a commit of the poller. -/
theorem commit : Commit externals before after :=
  @Commit.snapshot externals (calmEnv 0 "" 0) snapshot before 1 after
    (Sql.insertSnapshot_ok.2 ⟨row, by decide +kernel, rfl, allowed, rfl⟩)

/-- One request between whose statements the snapshot is committed, and one after it. -/
def requests : List SnapshotRead := [⟨before, after⟩, ⟨after, after⟩]

/-- A request during which the snapshot is stored, and one after it. -/
theorem requests_session :
    IsSession (Commit externals) SnapshotRead.atSelect SnapshotRead.atExists requests where
  lasts := List.forall_mem_cons.2 ⟨.single commit, List.forall_mem_singleton.2 .refl⟩
  follows := .cons_cons .refl (.singleton _)

end SnapshotsFixture

open SnapshotsFixture in
/-- The first request still says that there is no snapshot, and the second finds it. -/
theorem snapshots_readInOrder_first : ReadInOrder externals 5 requests :=
  snapshots_readInOrder requests_session 5

end VitaleBackend
