import VitaleBackend.Poller.Batch

/-!
# One transaction or many

A SATCAT batch is one transaction. Its rows see what those before them in the batch wrote, so that
the batch does what its rows would do one at a time, with a commit after each (`upsertOneByOne`), or
in any two parts (`upsertInTwo`); and a batch that does not come back changed nothing
(`batch_agrees`). The two ways give different ids and times, and agree in everything else
(`SameButTimes`).
-/

namespace VitaleBackend

open Process Relational

/-! ## Generated ids and times aside -/

/-- A row without its time. -/
def ObjectRow.untimed (row : ObjectRow) : ObjectRow := { row with updatedAt := 0 }

/-- The rows of `objects` are the same but for `updated_at`. -/
def SameObjects (db db' : Database) : Prop :=
  ∀ n, (db'.objects.find? n).map (·.untimed) = (db.objects.find? n).map (·.untimed)

/-- The tables are the same but for `updated_at` and the ids and times of events. -/
structure SameButTimes (db db' : Database) : Prop where
  objects : SameObjects db db'
  audtEvents : db'.audtEvents.map (·.recorded) = db.audtEvents.map (·.recorded)
  snapshots : db'.snapshots = db.snapshots
  pollerState : db'.pollerState = db.pollerState

/-- Tables are the same as themselves. -/
theorem SameButTimes.refl (db : Database) : SameButTimes db db := ⟨fun _ => rfl, rfl, rfl, rfl⟩

/-- It does not matter which of two tables comes first. -/
theorem SameButTimes.symm {db db' : Database} (h : SameButTimes db db') : SameButTimes db' db :=
  ⟨fun n => (h.objects n).symm, h.audtEvents.symm, h.snapshots.symm, h.pollerState.symm⟩

/-- The time of a record is the only part of its row that depends on the call. -/
theorem ObjectRow.ofRecord_untimed {X : Externals} {now now' : Timestamp} {obj : ObjectRecord}
    {row row' : ObjectRow} (h : ofRecord X now obj = .ok row)
    (h' : ofRecord X now' obj = .ok row') :
    row'.untimed = row.untimed := by
  rw [ofRecord_now] at h h'
  cases hr : ofRecord X 0 obj with
  | error e =>
    rw [hr] at h
    cases h
  | ok r =>
    rw [hr] at h h'
    cases h
    cases h'
    rfl

/-- A conflict is decided without the times of the rows. -/
theorem ObjectRow.onConflict_untimed (excluded row : ObjectRow) :
    (excluded.onConflict row).untimed = (excluded.untimed.onConflict row.untimed).untimed := rfl

section
variable {X : Externals} {registry : RuleRegistry ObjectState} {obj : ObjectRecord}
  {objs : List ObjectRecord} {call call' : Call} {db₁ db₂ db₁' db₂' : Database}
  {events : List DetectedEvent}

/-- The rules do not look at times. -/
theorem satcatEvents_same (h : SameButTimes db₁ db₂) :
    satcatEvents X registry obj db₂ = satcatEvents X registry obj db₁ := by
  have hobj := h.objects obj.noradCatId
  rw [satcatEvents, satcatEvents]
  cases h₁ : db₁.objects.find? obj.noradCatId with
  | none =>
    rw [h₁, Option.map_none, Option.map_eq_none_iff] at hobj
    rw [hobj]
  | some row₁ =>
    rw [h₁, Option.map_some, Option.map_eq_some_iff] at hobj
    obtain ⟨row₂, h₂, hrow⟩ := hobj
    have hprev : row₂.untimed.prevState X = row₁.untimed.prevState X := congrArg _ hrow
    rw [h₂]
    exact congrArg (registry.evaluateAll · obj.currState) hprev

/-- One row, on two databases that are the same. -/
theorem UpsertedRow.same (h : SameButTimes db₁ db₂) (h₁ : UpsertedRow X registry call obj db₁ db₁')
    (h₂ : UpsertedRow X registry call' obj db₂ db₂') : SameButTimes db₁' db₂' := by
  obtain ⟨row₁, hr₁, ho₁⟩ := h₁.row
  obtain ⟨row₂, hr₂, ho₂⟩ := h₂.row
  have hrow := ObjectRow.ofRecord_untimed hr₁ hr₂
  refine ⟨fun n => ?_, ?_, ?_, ?_⟩
  · rw [ho₁, ho₂, Table.find?_upsert, Table.find?_upsert, (ObjectRow.ofRecord_ok hr₁).1,
      (ObjectRow.ofRecord_ok hr₂).1]
    split
    · have hold := h.objects n
      cases hf₁ : db₁.objects.find? n with
      | none =>
        rw [hf₁, Option.map_none, Option.map_eq_none_iff] at hold
        rw [hold]
        exact congrArg some hrow
      | some old₁ =>
        rw [hf₁, Option.map_some, Option.map_eq_some_iff] at hold
        obtain ⟨old₂, hf₂, hold⟩ := hold
        rw [hf₂]
        refine congrArg some ?_
        show (row₂.onConflict old₂).untimed = (row₁.onConflict old₁).untimed
        rw [ObjectRow.onConflict_untimed, hrow, hold, ← ObjectRow.onConflict_untimed]
    · exact h.objects n
  · rw [h₁.audtEvents, h₂.audtEvents, h.audtEvents, satcatEvents_same h]
  · rw [h₁.snapshots, h₂.snapshots, h.snapshots]
  · rw [h₁.pollerState, h₂.pollerState, h.pollerState]

/-- The step: a row that goes through does so at any time, and on any database that is the same. -/
theorem upsertRow_same (call' : Call) (h : SameButTimes db₁ db₂)
    (h₁ : Sql.upsertRow X registry call obj db₁ = .ok (events, db₁')) :
    ∃ db₂', Sql.upsertRow X registry call' obj db₂ = .ok (events, db₂') ∧
      SameButTimes db₁' db₂' := by
  obtain ⟨rfl, hrow₁⟩ := upsertRow_ok h₁
  have hok := exists_upsertRow_iff.1 ⟨_, h₁⟩
  rw [← satcatEvents_same h] at hok
  obtain ⟨⟨events₂, db₂'⟩, h₂⟩ : ∃ r, Sql.upsertRow X registry call' obj db₂ = .ok r :=
    exists_upsertRow_iff.2 hok
  obtain ⟨rfl, hrow₂⟩ := upsertRow_ok h₂
  exact ⟨db₂', satcatEvents_same h ▸ h₂, hrow₁.same h hrow₂⟩

/-- The run: the same for a batch. -/
theorem upsertObjectsFromSatcat_same (call' : Call) (h : SameButTimes db₁ db₂)
    (h₁ : Sql.upsertObjectsFromSatcat X registry call objs db₁ = .ok (events, db₁')) :
    ∃ db₂', Sql.upsertObjectsFromSatcat X registry call' objs db₂ = .ok (events, db₂') ∧
      SameButTimes db₁' db₂' := by
  induction objs generalizing db₁ db₂ events with
  | nil =>
    cases h₁
    exact ⟨db₂, rfl, h⟩
  | cons obj objs ih =>
    obtain ⟨e₁, db₃, e₂, hrow, hrest, rfl⟩ := upsertObjectsFromSatcat_cons_ok.1 h₁
    obtain ⟨db₄, hrow', hsame⟩ := upsertRow_same call' h hrow
    obtain ⟨db₂', hrest', hsame'⟩ := ih hsame hrest
    exact ⟨db₂', upsertObjectsFromSatcat_cons_ok.2 ⟨e₁, db₄, e₂, hrow', hrest', rfl⟩, hsame'⟩

end

/-! ## One transaction and several -/

section
variable (X : Externals) (registry : RuleRegistry ObjectState)

/-- Diff-then-upsert, one row at a time, with a commit after each. -/
def upsertOneByOne : List ObjectRecord → Job (List DetectedEvent)
  | [] => pure []
  | obj :: objs => do
    let events ← transaction fun call db => Sql.upsertRow X registry call obj db
    return events ++ (← upsertOneByOne objs)

/-- Two batches, one after the other. -/
def upsertInTwo (xs ys : List ObjectRecord) : Job (List DetectedEvent) := do
  let events ← DbWriter.upsertObjectsFromSatcat X registry xs
  return events ++ (← DbWriter.upsertObjectsFromSatcat X registry ys)

/-- Any number of batches, one after the other. -/
def upsertEach : List (List ObjectRecord) → Job (List DetectedEvent)
  | [] => pure []
  | objs :: batches => do
    let events ← DbWriter.upsertObjectsFromSatcat X registry objs
    return events ++ (← upsertEach batches)

variable {X : Externals} {registry : RuleRegistry ObjectState}

/-- A row with a commit after it is a batch of one. -/
theorem upsert_singleton (obj : ObjectRecord) :
    DbWriter.upsertObjectsFromSatcat X registry [obj] =
      transaction fun call db => Sql.upsertRow X registry call obj db := by
  rw [DbWriter.upsertObjectsFromSatcat, if_neg (List.cons_ne_nil _ _)]
  refine congrArg _ (funext fun call => funext fun db => ?_)
  rw [Sql.upsertObjectsFromSatcat]
  cases Sql.upsertRow X registry call obj db with
  | error e => rfl
  | ok r => exact congrArg Except.ok (Prod.ext (List.append_nil r.1) rfl)

/-- Records one by one are batches of one. -/
theorem upsertOneByOne_eq (objs : List ObjectRecord) :
    upsertOneByOne X registry objs = upsertEach X registry (objs.map fun obj => [obj]) := by
  induction objs with
  | nil => rfl
  | cons obj objs ih => rw [upsertOneByOne, List.map_cons, upsertEach, upsert_singleton, ih]

/-- Two parts are two batches. -/
theorem upsertInTwo_eq (xs ys : List ObjectRecord) :
    upsertInTwo X registry xs ys = upsertEach X registry [xs, ys] := by
  simp only [upsertInTwo, upsertEach, pure_bind, List.append_nil, bind_pure]

/-- A batch that goes through as one does so in parts. -/
theorem upsertEach_run {batches : List (List ObjectRecord)} {call : Call} {db db' : Database}
    {events : List DetectedEvent} {t : Session} (h : SameButTimes db t.db) (ht : Calm t.env)
    (hone : Sql.upsertObjectsFromSatcat X registry call batches.flatten db = .ok (events, db')) :
    ∃ t', upsertEach X registry batches t = (.ok events, t') ∧ SameButTimes db' t'.db := by
  induction batches generalizing db events t with
  | nil =>
    cases hone
    exact ⟨t, rfl, h⟩
  | cons objs batches ih =>
    rw [List.flatten_cons] at hone
    obtain ⟨e₁, db₁, e₂, h₁, h₂, rfl⟩ := upsertObjectsFromSatcat_append_ok.1 hone
    obtain ⟨db₂, h₁', hsame⟩ := upsertObjectsFromSatcat_same t.call h h₁
    obtain ⟨t₁, hrun, rfl, henv⟩ := upsert_run (ht _) h₁'
    obtain ⟨t', hrest, hsame'⟩ := ih hsame (henv ▸ ht) h₂
    exact ⟨t', by rw [upsertEach, Proc.bind_ok hrun, Proc.bind_ok hrest, Proc.pure_run], hsame'⟩

/-- A batch that goes through in parts does so as one. -/
theorem upsertEach_eq_ok (call : Call) {batches : List (List ObjectRecord)} {db : Database}
    {events : List DetectedEvent} {t t' : Session} (h : SameButTimes t.db db)
    (heach : upsertEach X registry batches t = (.ok events, t')) :
    ∃ db', Sql.upsertObjectsFromSatcat X registry call batches.flatten db = .ok (events, db') ∧
      SameButTimes t'.db db' := by
  induction batches generalizing db events t with
  | nil =>
    cases heach
    exact ⟨db, rfl, h⟩
  | cons objs batches ih =>
    obtain ⟨e₁, t₁, h₁, h₂⟩ := Proc.bind_eq_ok.1 heach
    obtain ⟨e₂, t₂, h₂, h₃⟩ := Proc.bind_eq_ok.1 h₂
    cases h₃
    obtain ⟨db₁, hone, hsame⟩ := upsertObjectsFromSatcat_same call h (upsert_eq_ok h₁)
    obtain ⟨db', hrest, hsame'⟩ := ih hsame h₂
    rw [List.flatten_cons]
    exact ⟨db', upsertObjectsFromSatcat_append_ok.2 ⟨e₁, db₁, e₂, hone, hrest, rfl⟩, hsame'⟩

end

/-- A run that comes back with its events. -/
def Returns (r : Outcome Exn (List DetectedEvent) × Session) : Prop := ∃ events, r.1 = .ok events

/-- Two runs that come back with the same events and leave the same tables, generated ids and times
aside. -/
def Agree (r r' : Outcome Exn (List DetectedEvent) × Session) : Prop :=
  ∃ events, r.1 = .ok events ∧ r'.1 = .ok events ∧ SameButTimes r.2.db r'.2.db

section
variable {X : Externals} {registry : RuleRegistry ObjectState} {s t : Session}

/-- However a batch is cut into batches, the parts agree with the whole. -/
theorem upsertEach_agrees (X : Externals) (registry : RuleRegistry ObjectState)
    (h : SameButTimes s.db t.db) (hs : s.call.fault = .none)
    (ht : Calm t.env) (batches : List (List ObjectRecord)) :
    Returns (DbWriter.upsertObjectsFromSatcat X registry batches.flatten s) ∨
      Returns (upsertEach X registry batches t) →
    Agree (DbWriter.upsertObjectsFromSatcat X registry batches.flatten s)
      (upsertEach X registry batches t) := by
  rintro (⟨events, hone⟩ | ⟨events, heach⟩)
  · obtain ⟨t', hrun, hsame⟩ := upsertEach_run h ht (upsert_eq_ok (Prod.ext hone rfl))
    rw [hrun]
    exact ⟨events, hone, rfl, hsame⟩
  · obtain ⟨db', hone, hsame⟩ := upsertEach_eq_ok s.call h.symm
      (Prod.ext heach rfl : upsertEach X registry batches t =
        (_, (upsertEach X registry batches t).2))
    obtain ⟨s', hrun, rfl, -⟩ := upsert_run hs hone
    rw [hrun]
    exact ⟨events, rfl, heach, hsame.symm⟩

/-- All that a batch can do: come back, fail, or be stopped, and only in the first case was anything
written. -/
theorem upsert_cases (objs : List ObjectRecord) (s : Session) :
    Returns (DbWriter.upsertObjectsFromSatcat X registry objs s) ∨
      (∃ e, DbWriter.upsertObjectsFromSatcat X registry objs s = (.error e, s.next)) ∨
      (s.call.fault = .stops ∧
        DbWriter.upsertObjectsFromSatcat X registry objs s = (.stopped, s.next)) := by
  rw [DbWriter.upsertObjectsFromSatcat]
  split
  · exact .inl ⟨[], rfl⟩
  · rcases transaction_cases (fun call db => Sql.upsertObjectsFromSatcat X registry call objs db) s
      with ⟨-, a, db, -, hr⟩ | ⟨-, hr⟩ | hr
    · exact .inl ⟨a, congrArg Prod.fst hr⟩
    · exact .inr (.inl hr)
    · exact .inr (.inr hr)

/-- A batch that does not come back changed nothing. -/
theorem upsert_unchanged {objs : List ObjectRecord}
    (h : ¬ Returns (DbWriter.upsertObjectsFromSatcat X registry objs s)) :
    (DbWriter.upsertObjectsFromSatcat X registry objs s).2.db = s.db := by
  rcases upsert_cases (X := X) objs s with hr | ⟨e, hr⟩ | ⟨-, hr⟩
  · exact absurd hr h
  · rw [hr]
    rfl
  · rw [hr]
    rfl

end

/-- On any tables, with any rules, for batches of any records: the batch agrees with its rows
upserted one at a time, and with any two parts of it; it fails when one of its rows fails; and it
changed nothing when it fails. -/
theorem batch_agrees {X : Externals} {registry : RuleRegistry ObjectState} {s t : Session}
    (h : SameButTimes s.db t.db) (hs : s.call.fault = .none) (ht : Calm t.env) :
    (∀ objs, Returns (DbWriter.upsertObjectsFromSatcat X registry objs s) ∨
        Returns (upsertOneByOne X registry objs t) →
      Agree (DbWriter.upsertObjectsFromSatcat X registry objs s)
        (upsertOneByOne X registry objs t)) ∧
    (∀ xs ys, Returns (DbWriter.upsertObjectsFromSatcat X registry (xs ++ ys) s) ∨
        Returns (upsertInTwo X registry xs ys t) →
      Agree (DbWriter.upsertObjectsFromSatcat X registry (xs ++ ys) s)
        (upsertInTwo X registry xs ys t)) ∧
    (∀ objs, ¬ Returns (upsertOneByOne X registry objs t) →
      ∃ e, DbWriter.upsertObjectsFromSatcat X registry objs s = (.error e, s.next)) ∧
    ∀ objs (u : Session), ¬ Returns (DbWriter.upsertObjectsFromSatcat X registry objs u) →
      (DbWriter.upsertObjectsFromSatcat X registry objs u).2.db = u.db := by
  have hrows : ∀ objs, Returns (DbWriter.upsertObjectsFromSatcat X registry objs s) ∨
        Returns (upsertOneByOne X registry objs t) →
      Agree (DbWriter.upsertObjectsFromSatcat X registry objs s)
        (upsertOneByOne X registry objs t) := by
    intro objs
    have hparts := upsertEach_agrees X registry h hs ht
      (objs.map fun obj => [obj])
    rwa [← upsertOneByOne_eq, ← List.flatMap_def, List.flatMap_singleton'] at hparts
  refine ⟨hrows, fun xs ys => ?_, fun objs hno => ?_, fun objs u => upsert_unchanged⟩
  · have hparts := upsertEach_agrees X registry h hs ht [xs, ys]
    rwa [← upsertInTwo_eq, List.flatten_cons, List.flatten_singleton] at hparts
  · rcases upsert_cases (X := X) objs s with hr | hr | ⟨hstop, -⟩
    · obtain ⟨events, -, hr, -⟩ := hrows objs (.inl hr)
      exact absurd ⟨events, hr⟩ hno
    · exact hr
    · rw [hs] at hstop
      cases hstop

namespace OneByOneFixture

/-- No third-party function is called on the texts of these records. -/
def externals : Externals := .ofTables [] [] []

/-- A record of one object under some name. -/
def named (objectName : String) : ObjectRecord where
  noradCatId := 5
  objectName
  objectId := ""
  objectType := ""
  countryCode := ""
  launchDate := none
  site := ""
  rcsSize := ""
  decayDate := none

/-- One object twice. -/
def renamed : List ObjectRecord := [named "ALPHA", named "BETA"]

/-- The columns take both records. -/
theorem storable : ∀ obj ∈ renamed, obj.Storable externals :=
  List.forall_mem_cons.2 ⟨ObjectRecord.storable_iff.2 (by decide +kernel),
    List.forall_mem_singleton.2 (ObjectRecord.storable_iff.2 (by decide +kernel))⟩

/-- A process on empty tables. -/
def start (now : Timestamp) : Session := .start .empty (calmEnv now "")

/-- The batch of both records goes through. -/
theorem returns : Returns (DbWriter.upsertObjectsFromSatcat externals makeDefaultObjectRuleRegistry
    renamed (start 0)) := by
  obtain ⟨events, s', hrun, -⟩ := @exists_upsert externals renamed (start 0) rfl storable
  rw [hrun]
  exact ⟨events, rfl⟩

end OneByOneFixture

open OneByOneFixture in
/-- As one batch the two records do what they do one by one, a second later. -/
theorem batch_agrees_renamed : Agree
    (DbWriter.upsertObjectsFromSatcat externals makeDefaultObjectRuleRegistry renamed (start 0))
    (upsertOneByOne externals makeDefaultObjectRuleRegistry renamed (start 1)) :=
  (batch_agrees (.refl .empty) rfl (calmEnv_calm 1 "")).1 renamed (.inl returns)

end VitaleBackend
