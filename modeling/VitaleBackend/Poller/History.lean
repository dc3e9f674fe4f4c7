import VitaleBackend.Poller.Content
import VitaleBackend.Poller.Redelivery
import VitaleBackend.Lib.Changelog

/-!
# The history of GP events

A database that only ever received GP responses, none of whose calls failed, is a log of element
sets: its snapshots are the versions, and its events the changes between neighbours (`Mirrors`).
With what Space-Track promises of its records (`Promised`) the log is exact, and so are the tables
(`gp_history_exact`).
-/

namespace VitaleBackend

open Process Relational Changelog

/-! ## Element sets that fit the columns -/

/-- The element values. -/
def Snapshot.numbers (s : Snapshot) : List Double :=
  [s.meanMotion, s.eccentricity, s.inclination, s.raOfAscNode, s.argOfPericenter, s.meanAnomaly,
   s.semimajorAxis, s.period, s.apoapsis, s.periapsis, s.bstar, s.meanMotionDot, s.meanMotionDdot]

/-- The element values of a row. -/
def SnapshotRow.numbers (s : SnapshotRow) : List Double :=
  [s.meanMotion, s.eccentricity, s.inclination, s.raOfAscNode, s.argOfPericenter, s.meanAnomaly,
   s.semimajorAxis, s.period, s.apoapsis, s.periapsis, s.bstar, s.meanMotionDot, s.meanMotionDdot]

/-- The columns take the element set as this row, and none of them rounds it. -/
structure Fits (X : Externals) (snap : Snapshot) (row : SnapshotRow) : Prop where
  columns : SnapshotRow.ofSnapshot X 0 0 snap = .ok row
  exact : row.numbers = snap.numbers

/-- The element set as the database returns it: the text of its epoch is then Postgres's own. -/
def Snapshot.printed (X : Externals) (p : Snapshot) : Snapshot :=
  { p with epoch := ((X.timestampIn p.epoch).map X.timestampOut).getD p.epoch }

/-- The epoch of a row is that of its element set. -/
theorem SnapshotRow.ofSnapshot_epoch {X : Externals} {id : Nat} {now : Timestamp} {snap : Snapshot}
    {row : SnapshotRow} (h : SnapshotRow.ofSnapshot X id now snap = .ok row) :
    X.timestampIn snap.epoch = some row.epoch := by
  have ht := (ofSnapshot_converted h).2.epoch
  rw [columnInput] at ht
  cases hin : X.timestampIn snap.epoch with
  | none =>
    rw [hin] at ht
    cases ht
  | some t' =>
    rw [hin] at ht
    cases ht
    rfl

section
variable {X : Externals} {snap : Snapshot} {row : SnapshotRow}

/-- A row that fits an element set has its object. -/
theorem Fits.noradCatId (h : Fits X snap row) : row.noradCatId = snap.noradCatId :=
  (SnapshotRow.ofSnapshot_ok h.columns).2.1

/-- A row that fits an element set has its `gp_id`. -/
theorem Fits.gpId (h : Fits X snap row) : row.gpId = snap.gpId :=
  (SnapshotRow.ofSnapshot_ok h.columns).2.2

/-- The rules do not tell a row that is read back from the element set that fits it. -/
theorem Fits.evaluateAll (h : Fits X snap row) (decayDate : Option Int) (curr : Snapshot) :
    makeDefaultRuleRegistry.evaluateAll (row.toSnapshot X decayDate) curr =
      makeDefaultRuleRegistry.evaluateAll (snap.printed X) curr := by
  have hnum := h.exact
  simp only [SnapshotRow.numbers, Snapshot.numbers, List.cons.injEq, and_true] at hnum
  obtain ⟨-, he, hi, hr, -, -, ha, -, -, -, hb, -, -⟩ := hnum
  refine evaluateAll_congr_prev hi ha hr he hb ?_ curr
  show X.timestampOut row.epoch = ((X.timestampIn snap.epoch).map X.timestampOut).getD snap.epoch
  rw [SnapshotRow.ofSnapshot_epoch h.columns]
  rfl

end

/-! ## The promise, and what it gives -/

/-- The events of two element sets in a row. -/
def pairChanges (X : Externals) (p q : Snapshot) : List EventContent :=
  (makeDefaultRuleRegistry.evaluateAll (p.printed X) q).map fun e =>
    ⟨q.noradCatId, e, some p.gpId, some q.gpId⟩

/-- The events of a pair name the object of its second element set. -/
theorem pairChanges_noradCatId (X : Externals) (p q : Snapshot) :
    ∀ e ∈ pairChanges X p q, e.noradCatId = q.noradCatId := by
  intro e he
  obtain ⟨_, -, rfl⟩ := List.mem_map.1 he
  rfl

/-- One epoch is before another. -/
def Earlier (X : Externals) (p q : Snapshot) : Prop :=
  ∀ t u, X.timestampIn p.epoch = some t → X.timestampIn q.epoch = some u → t < u

/-- What Space-Track promises of its element sets, in the order in which they are received: each is
that object's latest once more, or one of a known object with a new `gp_id` that fits the columns
and is later than every earlier one of the object. -/
inductive Promised (X : Externals) (objects : Objects) : List Snapshot → Prop
  | nil : Promised X objects []
  | repeated {stream : List Snapshot} {a : Snapshot} : Promised X objects stream →
      latest (·.noradCatId) a.noradCatId stream = some a → Promised X objects (stream ++ [a])
  | new {stream : List Snapshot} {a : Snapshot} {row : SnapshotRow} : Promised X objects stream →
      a.noradCatId ∈ objects.keys → Fits X a row → a.gpId ∉ stream.map (·.gpId) →
      (∀ p ∈ stream, p.noradCatId = a.noradCatId → Earlier X p a) →
      Promised X objects (stream ++ [a])

/-- Promised element sets repeat only the latest of an object, which is what a log of versions asks
for. -/
theorem Promised.repeatsLatest {X : Externals} {objects : Objects} {stream : List Snapshot}
    (h : Promised X objects stream) : RepeatsLatest (·.noradCatId) stream := by
  induction h with
  | nil => exact .nil
  | repeated _ hlast ih => exact ih.repeated hlast
  | new _ _ _ hnew _ ih => exact ih.new fun ha => hnew (List.mem_map_of_mem ha)

/-! ## The tables as a log -/

/-- The log of what was received. -/
def gpLog (X : Externals) (stream : List Snapshot) : Log Snapshot EventContent :=
  record (·.noradCatId) (pairChanges X) stream

/-- What the log of the promised stream has. -/
theorem gpLog_exact {X : Externals} {objects : Objects} {stream : List Snapshot}
    (h : Promised X objects stream) :
    Exact (·.noradCatId) (pairChanges X) (·.noradCatId) (gpLog X stream) stream :=
  exact_record (pairChanges_noradCatId X) h.repeatsLatest

/-- The tables are a log: a row for each version, the changes as events, and the rows of an object
by increasing epoch. -/
structure Mirrors (X : Externals) (log : Log Snapshot EventContent) (c : GpContent) : Prop where
  rows : List.Forall₂ (Fits X) log.versions c.snapshots
  events : c.events = log.changes
  ordered : c.snapshots.Pairwise fun a b => a.noradCatId = b.noradCatId → a.epoch < b.epoch

/-- Related lists have related last elements. -/
theorem forall₂_getLast? {α β : Type} {R : α → β → Prop} {l : List α} {l' : List β}
    (h : List.Forall₂ R l l') : Option.Rel R l.getLast? l'.getLast? := by
  induction h with
  | nil => exact .none
  | cons hr htail ih =>
    cases htail with
    | nil => exact .some hr
    | cons _ _ => exact ih

section
variable {X : Externals} {log : Log Snapshot EventContent} {c : GpContent}

/-- The rows of an object are those of its versions. -/
theorem Mirrors.rowsOf (h : Mirrors X log c) (n : Int) :
    List.Forall₂ (Fits X) (versionsOf (·.noradCatId) n log.versions)
      (c.snapshots.filter (·.noradCatId = n)) :=
  List.rel_filter (fun _ row hfit => by
    show decide (_ = n) = true ↔ decide (row.noradCatId = n) = true
    rw [hfit.noradCatId]) h.rows

/-- The rows of an object are in the order of their epochs. -/
theorem Mirrors.orderedOf (h : Mirrors X log c) (n : Int) :
    (c.snapshots.filter (·.noradCatId = n)).Pairwise fun a b => a.epoch < b.epoch := by
  refine (h.ordered.filter _).imp_of_mem fun ha hb hlt => hlt ?_
  have ha' : _ ∧ _ := List.mem_filter.1 ha
  have hb' : _ ∧ _ := List.mem_filter.1 hb
  exact (of_decide_eq_true ha'.2).trans (of_decide_eq_true hb'.2).symm

/-- The row that `get_last_snapshot` selects is that of the latest version. -/
theorem Mirrors.lastRow (h : Mirrors X log c) (n : Int) :
    Option.Rel (Fits X) (latest (·.noradCatId) n log.versions)
    (Sql.lastSnapshotRow c.snapshots n) := by
  have hlast : Sql.lastSnapshotRow c.snapshots n =
      (c.snapshots.filter (·.noradCatId = n)).getLast? :=
    head?_firstBy_of_pairwise _ ((h.orderedOf n).imp fun hlt => not_le.2 hlt)
  rw [hlast]
  exact forall₂_getLast? (h.rowsOf n)

/-- What a record of a known object fires are the changes from the latest version. -/
theorem Mirrors.fired (h : Mirrors X log c) {r : GpRecord}
    (hk : r.object.noradCatId ∈ c.objects.keys) :
    c.fired X r = (latest (·.noradCatId) r.snapshot.noradCatId log.versions).elim []
      (pairChanges X · r.snapshot) := by
  obtain ⟨o, ho⟩ := Table.exists_find? hk
  have hrel := h.lastRow r.object.noradCatId
  unfold GpContent.fired GpContent.last Sql.selectLast
  rw [ho, r.noradCatId_eq, Option.bind_some]
  generalize latest (fun p : Snapshot => p.noradCatId) _ log.versions = version at hrel ⊢
  generalize Sql.lastSnapshotRow c.snapshots _ = row at hrel ⊢
  cases hrel with
  | none => rfl
  | some hfit =>
    show List.map _ _ = List.map _ _
    rw [hfit.evaluateAll, r.noradCatId_eq]
    exact List.map_congr_left fun e _ =>
      congrArg (EventContent.mk _ e · _) (congrArg some hfit.gpId)

/-- The latest version arrives again: the tables refuse it. -/
theorem Mirrors.store_repeated (h : Mirrors X log c) {r : GpRecord}
    (hlast : latest (·.noradCatId) r.snapshot.noradCatId log.versions = some r.snapshot) :
    Mirrors X (log.put (·.noradCatId) (pairChanges X) r.snapshot) (c.store X r) := by
  rw [put_repeated hlast, GpContent.store_of_not_takes]
  · exact h
  · intro row htakes
    obtain ⟨row', hrow', hfit⟩ := exists_right_of_mem h.rows (latest_mem hlast).1
    refine htakes.fresh ?_
    rw [← hfit.gpId]
    exact List.mem_map_of_mem hrow'

/-- A new version arrives: the tables take it. -/
theorem Mirrors.store_new (h : Mirrors X log c) {r : GpRecord} {row : SnapshotRow}
    (hk : r.object.noradCatId ∈ c.objects.keys) (hfit : Fits X r.snapshot row)
    (hnew : r.snapshot.gpId ∉ log.versions.map (·.gpId))
    (hlater : ∀ p ∈ log.versions, p.noradCatId = r.snapshot.noradCatId → Earlier X p r.snapshot) :
    Mirrors X (log.put (·.noradCatId) (pairChanges X) r.snapshot) (c.store X r) := by
  have hlast : latest (·.noradCatId) r.snapshot.noradCatId log.versions ≠ some r.snapshot :=
    fun hlast => hnew (List.mem_map_of_mem (latest_mem hlast).1)
  have hfresh : r.snapshot.gpId ∉ c.snapshots.map (·.gpId) := by
    intro hmem
    obtain ⟨row', hrow', hgp⟩ := List.mem_map.1 hmem
    obtain ⟨p, hp, hfit'⟩ := exists_left_of_mem h.rows hrow'
    exact hnew (List.mem_map.2 ⟨p, hp, by rw [← hfit'.gpId, hgp]⟩)
  rw [put_new hlast, GpContent.store_of_takes ⟨hfit.columns, hfresh, hk⟩]
  refine ⟨List.rel_append h.rows (.cons hfit .nil), ?_, ?_⟩
  · show c.events ++ c.fired X r = _
    rw [h.events, h.fired hk]
  · refine List.pairwise_append.2 ⟨h.ordered, List.pairwise_singleton _ _, fun a ha b hb hab => ?_⟩
    obtain ⟨p, hp, hfit'⟩ := exists_left_of_mem h.rows ha
    rw [List.mem_singleton.1 hb] at hab ⊢
    rw [hfit'.noradCatId, hfit.noradCatId] at hab
    exact hlater p hp hab _ _ (SnapshotRow.ofSnapshot_epoch hfit'.columns)
      (SnapshotRow.ofSnapshot_epoch hfit.columns)

end

/-- Storing records leaves the catalogue alone. -/
theorem GpContent.storeAll_objects (X : Externals) (rs : List GpRecord) (c : GpContent) :
    (c.storeAll X rs).objects = c.objects := by
  induction rs generalizing c with
  | nil => rfl
  | cons r rs ih =>
    rw [storeAll_cons, ih, store]
    split
    · rfl
    · split <;> rfl

/-- Storing promised records keeps the tables a log of what was received. -/
theorem storeAll_mirrors {X : Externals} {c : GpContent} {stream : List Snapshot}
    (hp : Promised X c.objects stream) (hempty : Mirrors X .empty c) {rs : List GpRecord}
    (hrs : rs.map (·.snapshot) = stream) : Mirrors X (gpLog X stream) (c.storeAll X rs) := by
  induction hp generalizing rs with
  | nil =>
    rw [List.map_eq_nil_iff.1 hrs]
    exact hempty
  | repeated hp hlast ih =>
    obtain ⟨rs', last, rfl, hrs', hlast'⟩ := List.map_eq_append_iff.1 hrs
    obtain ⟨r, rfl, rfl⟩ := List.map_eq_singleton_iff.1 hlast'
    rw [GpContent.storeAll_append, gpLog, record_concat]
    refine (ih hrs').store_repeated ?_
    rw [(gpLog_exact hp).latest]
    exact hlast
  | new hp hk hfit hnew hlater ih =>
    obtain ⟨rs', last, rfl, hrs', hlast'⟩ := List.map_eq_append_iff.1 hrs
    obtain ⟨r, rfl, rfl⟩ := List.map_eq_singleton_iff.1 hlast'
    rw [GpContent.storeAll_append, gpLog, record_concat]
    refine (ih hrs').store_new ?_ hfit (fun hmem => ?_) fun p hmem => ?_
    · rw [GpContent.storeAll_objects, ← r.noradCatId_eq]
      exact hk
    · obtain ⟨p, hmem, hgp⟩ := List.mem_map.1 hmem
      exact hnew (List.mem_map.2 ⟨p, (gpLog_exact hp).mem hmem, hgp⟩)
    · exact hlater p ((gpLog_exact hp).mem hmem)

/-! ## Sequences of responses -/

/-- One response, and the process that handles it. -/
structure GpResponse where
  rotationTargetIds : List Int
  body : String
  env : Nat → Call

/-- The responses are processed one after the other. -/
def processResponses (X : Externals) : List GpResponse → Database → Database
  | [], db => db
  | p :: ps, db =>
    processResponses X ps
      (GpPoller.processResponse X p.rotationTargetIds p.body (.start db p.env)).2.db

/-- Everything that the responses carry, in order. -/
def receivedAll (X : Externals) (ps : List GpResponse) : List GpRecord :=
  ps.flatMap fun p => received X p.body

/-- Responses without failed calls store everything they carry, in order. -/
theorem processResponses_content (X : Externals) {ps : List GpResponse} (db : Database)
    (hc : ∀ p ∈ ps, Calm p.env) :
    (processResponses X ps db).content = db.content.storeAll X (receivedAll X ps) := by
  induction ps generalizing db with
  | nil => rfl
  | cons p ps ih =>
    obtain ⟨hp, hps⟩ := List.forall_mem_cons.1 hc
    have hstore : db.content.storeAll X (receivedAll X (p :: ps)) =
        (db.content.storeAll X (received X p.body)).storeAll X (receivedAll X ps) :=
      GpContent.storeAll_append X _ _ _
    refine (ih _ hps).trans (Eq.trans ?_ hstore.symm)
    exact congrArg (GpContent.storeAll X · _) (processResponse_content X _ _ hp)

/-- `ORDER BY epoch`. -/
def byEpoch (a b : SnapshotRow) : Prop := a.epoch ≤ b.epoch

/-- Epochs are compared as integers. -/
instance : DecidableRel byEpoch := fun a b => inferInstanceAs (Decidable (a.epoch ≤ b.epoch))

/-- The tables have the history of what was received: for each object the distinct element sets, in
epoch order, and the events of each two in a row, once, with the `gp_id` of both. -/
structure ExactHistory (X : Externals) (stream : List Snapshot) (c : GpContent) : Prop where
  snapshots : ∀ n, List.Forall₂ (Fits X) (history (·.noradCatId) n stream)
    ((c.snapshots.filter (·.noradCatId = n)).insertionSort byEpoch)
  events : ∀ n, c.events.filter (·.noradCatId = n) =
    (neighbours (history (·.noradCatId) n stream)).flatMap fun (p, q) => pairChanges X p q

/-- The GP tables have the exact history of what Space-Track sent, when no call fails. -/
theorem gp_history_exact {X : Externals} {ps : List GpResponse} {db : Database}
    (hs : db.snapshots = []) (he : db.audtEvents = []) (hc : ∀ p ∈ ps, Calm p.env)
    (hp : Promised X db.objects ((receivedAll X ps).map (·.snapshot))) :
    ExactHistory X ((receivedAll X ps).map (·.snapshot)) (processResponses X ps db).content := by
  have hempty : Mirrors X .empty db.content := by
    refine ⟨?_, ?_, ?_⟩
    · show List.Forall₂ _ [] (db.snapshots.map _)
      rw [hs]
      exact .nil
    · show (db.audtEvents.map _).map _ = []
      rw [he]
      rfl
    · show (db.snapshots.map _).Pairwise _
      rw [hs]
      exact .nil
  rw [processResponses_content X db hc]
  have hmirror := storeAll_mirrors (c := db.content) hp hempty rfl
  have hexact := gpLog_exact hp
  refine ⟨fun n => ?_, fun n => ?_⟩
  · have hsorted := (hmirror.orderedOf n).imp fun hlt => show byEpoch _ _ from hlt.le
    rw [hsorted.insertionSort_eq, ← hexact.versions]
    exact hmirror.rowsOf n
  · rw [hmirror.events, hexact.changes]

namespace HistoryFixture

open RedeliveryFixture (entry record rowOf)

/-- The first body has one element set. -/
def first : String := "[\x7b\"GP_ID\":\"100\"\x7d]"

/-- The second has it again, and a later one. -/
def second : String := "[\x7b\"GP_ID\":\"100\"\x7d,\x7b\"GP_ID\":\"101\"\x7d]"

/-- Both bodies are parsed, and both epochs are converted. -/
def externals : Externals :=
  .ofTables [(first, .arr [entry "100" "2026-08-22" "10"]),
    (second, .arr [entry "100" "2026-08-22" "10", entry "101" "2026-08-23" "11"])] []
    [("2026-08-22", 0), ("2026-08-23", 1)]

/-- An element set alone, and then once more before a later one. -/
def responses : List GpResponse :=
  [⟨[5], first, calmEnv 0 first⟩, ⟨[5], second, calmEnv 0 second⟩]

/-- The catalogue with the object, and without a snapshot. -/
def before : Database := RotationFixture.catalogue 0

/-- No call fails in either run. -/
theorem responses_calm : ∀ p ∈ responses, Calm p.env := by
  intro p hp
  simp only [responses, List.mem_cons, List.not_mem_nil, or_false] at hp
  rcases hp with rfl | rfl <;> exact calmEnv_calm _ _

/-- What is received, in its order: the first element set twice, and then the second. -/
theorem received_eq : (receivedAll externals responses).map (·.snapshot) =
    [] ++ [(record 100 "2026-08-22" 10).snapshot] ++ [(record 100 "2026-08-22" 10).snapshot] ++
      [(record 101 "2026-08-23" 11).snapshot] := by
  decide +kernel

/-- The second epoch is later than the first. -/
theorem earlier : Earlier externals (record 100 "2026-08-22" 10).snapshot
    (record 101 "2026-08-23" 11).snapshot := by
  intro t u ht hu
  have ht' : externals.timestampIn "2026-08-22" = some 0 := by decide +kernel
  have hu' : externals.timestampIn "2026-08-23" = some 1 := by decide +kernel
  cases ht'.symm.trans ht
  cases hu'.symm.trans hu
  decide

/-- So the sequence is one that Space-Track promises: a new element set, the same again, and a new
one. -/
theorem promised :
    Promised externals before.objects ((receivedAll externals responses).map (·.snapshot)) := by
  rw [received_eq]
  have hfit : Fits externals (record 100 "2026-08-22" 10).snapshot (rowOf 0 100 0 10) :=
    ⟨by decide +kernel, rfl⟩
  have hfit' : Fits externals (record 101 "2026-08-23" 11).snapshot (rowOf 0 101 1 11) :=
    ⟨by decide +kernel, rfl⟩
  have hfirst : Promised externals before.objects ([] ++ [(record 100 "2026-08-22" 10).snapshot]) :=
    .new .nil (by decide) hfit (by decide) (List.forall_mem_nil _)
  refine .new (hfirst.repeated rfl) (by decide) hfit' (by decide) fun p hp _ => ?_
  simp only [List.nil_append, List.singleton_append, List.mem_cons, List.not_mem_nil, or_false,
    or_self] at hp
  rw [hp]
  exact earlier

end HistoryFixture

open HistoryFixture in
/-- The tables after both responses have the two element sets and the events between them. -/
theorem gp_history_exact_two_responses :
    ExactHistory externals ((receivedAll externals responses).map (·.snapshot))
      (processResponses externals responses before).content :=
  gp_history_exact rfl rfl responses_calm promised

end VitaleBackend
