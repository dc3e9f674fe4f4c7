import VitaleBackend.Poller.Frames

/-!
# The SATCAT batch

What `upsert_objects_from_satcat` makes of the tables. A batch commits exactly when the columns take
every record of it (`upsertObjectsFromSatcat_ok_iff`): the inserts of its events never fail, since
the object is there and the codes are seeded. `UpsertedRow` is what one row does, and a property
that every row preserves is one that a whole response preserves (`satcat_processResponse_onDb`).
-/

namespace VitaleBackend

open Process Relational

/-! ## The columns of `objects` -/

/-- The time of an insert only ends up in `updated_at`. -/
theorem ObjectRow.ofRecord_now (X : Externals) (now : Timestamp) (obj : ObjectRecord) :
    ObjectRow.ofRecord X now obj =
      (fun row => { row with updatedAt := now }) <$> ObjectRow.ofRecord X 0 obj := by
  unfold ObjectRow.ofRecord
  simp only [map_bind, map_pure]

/-- The columns of `objects` take the record. -/
def ObjectRecord.Storable (X : Externals) (obj : ObjectRecord) : Prop :=
  ∃ row, ObjectRow.ofRecord X 0 obj = .ok row

/-- Whether the columns take a record can be computed. -/
theorem ObjectRecord.storable_iff {X : Externals} {obj : ObjectRecord} :
    obj.Storable X ↔ (ObjectRow.ofRecord X 0 obj).toOption.isSome = true := by
  unfold ObjectRecord.Storable
  cases ObjectRow.ofRecord X 0 obj with
  | error e => simp [Except.toOption]
  | ok row => simp [Except.toOption]

/-- A record makes a row exactly when the columns take it. -/
theorem ObjectRow.exists_ofRecord {X : Externals} {now : Timestamp} {obj : ObjectRecord} :
    (∃ row, ObjectRow.ofRecord X now obj = .ok row) ↔ obj.Storable X := by
  rw [ObjectRow.ofRecord_now]
  unfold ObjectRecord.Storable
  cases ObjectRow.ofRecord X 0 obj with
  | error e => simp [Functor.map, Except.map]
  | ok row => simp [Functor.map, Except.map]

/-- A stored record keeps its number, which fits the column, and a record without a decay date stays
without one. -/
theorem ObjectRow.ofRecord_ok {X : Externals} {now : Timestamp} {obj : ObjectRecord}
    {row : ObjectRow} (h : ObjectRow.ofRecord X now obj = .ok row) :
    row.noradCatId = obj.noradCatId ∧ IsInt32 obj.noradCatId ∧
      (obj.decayDate = none → row.decayDate = none) := by
  simp only [ObjectRow.ofRecord, bind_eq_ok] at h
  obtain ⟨n, hn, _, -, _, -, _, -, _, -, _, -, _, -, d, hd, ⟨⟩⟩ := h
  obtain ⟨h32, rfl⟩ := integerColumn_ok.1 hn
  refine ⟨rfl, h32, fun hnone => ?_⟩
  rw [hnone] at hd
  cases hd
  rfl

/-! ## The events of a row -/

/-- The events of the default registry have seeded codes. -/
theorem objectEvents_codes (prev curr : ObjectState) :
    ∀ e ∈ makeDefaultObjectRuleRegistry.evaluateAll prev curr,
    e.eventTypeCode ∈ eventTypeCodes := by
  intro e he
  rcases mem_objectEvents he with ⟨hc, -⟩ | hc
  · rw [hc]
    simp [eventTypeCodes]
  · simp only [List.mem_cons, List.not_mem_nil, or_false] at hc
    rcases hc with hc | hc | hc <;> simp [hc, eventTypeCodes]

/-- The events that an incoming record fires: none for an object not stored yet. -/
def satcatEvents (X : Externals) (registry : RuleRegistry ObjectState) (obj : ObjectRecord)
    (db : Database) : List DetectedEvent :=
  match db.objects.find? obj.noradCatId with
  | none => []
  | some prevRow => registry.evaluateAll (prevRow.prevState X) obj.currState

/-- What the inserts of a row's events do. -/
theorem insertSatcatEvents_ok {call : Call} {n : Int} {events : List DetectedEvent}
    {db db' : Database} (h : Sql.insertSatcatEvents call n events db = .ok db') :
    AppendsEvents (events.map fun e => ⟨n, e, none, none⟩) db db' := by
  induction events generalizing db with
  | nil =>
    cases h
    exact .nil _
  | cons e events ih =>
    obtain ⟨db₁, h₁, h₂⟩ := bind_eq_ok.1 h
    obtain ⟨ha, rfl⟩ := Sql.insertEvent_ok.1 h₁
    exact (ih h₂).cons ha

/-- The codes of the events that were inserted are seeded. -/
theorem insertSatcatEvents_codes {call : Call} {n : Int} {events : List DetectedEvent}
    {db db' : Database} (h : Sql.insertSatcatEvents call n events db = .ok db') :
    ∀ e ∈ events, e.eventTypeCode ∈ eventTypeCodes := by
  induction events generalizing db with
  | nil => exact List.forall_mem_nil _
  | cons e events ih =>
    obtain ⟨db₁, h₁, h₂⟩ := bind_eq_ok.1 h
    obtain ⟨ha, -⟩ := Sql.insertEvent_ok.1 h₁
    exact List.forall_mem_cons.2 ⟨ha.2.1, ih h₂⟩

/-- The inserts of a row's events do not fail when the object is there. -/
theorem exists_insertSatcatEvents {call : Call} {n : Int} {events : List DetectedEvent}
    {db : Database} (hn : n ∈ db.objects.keys)
    (hc : ∀ e ∈ events, e.eventTypeCode ∈ eventTypeCodes) :
    ∃ db', Sql.insertSatcatEvents call n events db = .ok db' := by
  induction events generalizing db with
  | nil => exact ⟨db, rfl⟩
  | cons e events ih =>
    have ha : db.EventAllowed (Sql.eventRow call n e none none db) :=
      ⟨hn, hc e (.head _), nofun, nofun⟩
    obtain ⟨db', h⟩ : ∃ db', Sql.insertSatcatEvents call n events (db.addEvent _ ha) = .ok db' :=
      ih hn fun e' he' => hc e' (.tail _ he')
    exact ⟨db', bind_eq_ok.2 ⟨_, Sql.insertEvent_ok.2 ⟨ha, rfl⟩, h⟩⟩

/-! ## One row -/

/-- What the upsert of one record does to the tables. -/
structure UpsertedRow (X : Externals) (registry : RuleRegistry ObjectState) (call : Call)
    (obj : ObjectRecord) (db db' : Database) : Prop where
  row : ∃ row, ObjectRow.ofRecord X call.now obj = .ok row ∧
    db'.objects = db.objects.upsert row row.onConflict row.onConflict_noradCatId
  snapshots : db'.snapshots = db.snapshots
  pollerState : db'.pollerState = db.pollerState
  audtEvents : db'.audtEvents.map (·.recorded) = db.audtEvents.map (·.recorded) ++
    (satcatEvents X registry obj db).map fun e => ⟨obj.noradCatId, e, none, none⟩

section
variable {X : Externals} {registry : RuleRegistry ObjectState} {call : Call} {obj : ObjectRecord}
  {db db' : Database}

/-- What an upsert that goes through reports and does. -/
theorem upsertRow_ok {events : List DetectedEvent}
    (h : Sql.upsertRow X registry call obj db = .ok (events, db')) :
    events = satcatEvents X registry obj db ∧ UpsertedRow X registry call obj db db' := by
  simp only [Sql.upsertRow, bind_eq_ok] at h
  obtain ⟨db₁, h₁, row, hr, db₂, h₂, ⟨⟩⟩ := h
  have he := insertSatcatEvents_ok h₁
  obtain ⟨-, ho₂, hs₂, he₂, hp₂⟩ := Sql.upsertObject_ok h₂
  refine ⟨rfl, ⟨row, hr, ?_⟩, hs₂.trans he.snapshots, hp₂.trans he.pollerState, ?_⟩
  · rw [ho₂, he.objects]
  · rw [he₂, he.audtEvents]
    rfl

/-- The columns took every record whose upsert succeeded. -/
theorem UpsertedRow.storable (h : UpsertedRow X registry call obj db db') : obj.Storable X := by
  obtain ⟨row, hr, -⟩ := h.row
  exact ObjectRow.exists_ofRecord.1 ⟨row, hr⟩

/-- The upsert of a record succeeds exactly when the columns take it and the codes of its events are
seeded. -/
theorem exists_upsertRow_iff : (∃ r, Sql.upsertRow X registry call obj db = .ok r) ↔
    obj.Storable X ∧ ∀ e ∈ satcatEvents X registry obj db, e.eventTypeCode ∈ eventTypeCodes := by
  refine ⟨?_, ?_⟩
  · rintro ⟨⟨events, db'⟩, h⟩
    obtain ⟨-, hrow⟩ := upsertRow_ok h
    refine ⟨hrow.storable, ?_⟩
    simp only [Sql.upsertRow, bind_eq_ok] at h
    obtain ⟨db₁, h₁, -⟩ := h
    exact insertSatcatEvents_codes h₁
  · rintro ⟨hs, hc⟩
    obtain ⟨row, hr⟩ : ∃ row, ObjectRow.ofRecord X call.now obj = .ok row :=
      ObjectRow.exists_ofRecord.2 hs
    obtain ⟨hn, h32, -⟩ := ObjectRow.ofRecord_ok hr
    have he : ∃ db₁, Sql.insertSatcatEvents call obj.noradCatId
        (satcatEvents X registry obj db) db = .ok db₁ := by
      rw [satcatEvents] at hc ⊢
      cases hf : db.objects.find? obj.noradCatId with
      | none => exact ⟨db, rfl⟩
      | some prevRow =>
        rw [hf] at hc
        refine exists_insertSatcatEvents (Table.mem_keys.2 ?_) hc
        exact ⟨prevRow, Table.mem_of_find? hf, Table.key_of_find? hf⟩
    obtain ⟨db₁, h₁⟩ := he
    have h₂ : ∃ db₂, Sql.upsertObject row db₁ = .ok db₂ := by
      rw [Sql.upsertObject, dif_pos (hn ▸ h32)]
      exact ⟨_, rfl⟩
    obtain ⟨db₂, h₂⟩ := h₂
    refine ⟨(satcatEvents X registry obj db, db₂), ?_⟩
    simp only [Sql.upsertRow, bind_eq_ok]
    exact ⟨db₁, h₁, row, hr, db₂, h₂, rfl⟩

/-- With the default rules the upsert of a record succeeds when the columns take it. -/
theorem exists_upsertRow (hs : obj.Storable X) :
    ∃ r, Sql.upsertRow X makeDefaultObjectRuleRegistry call obj db = .ok r := by
  refine exists_upsertRow_iff.2 ⟨hs, ?_⟩
  rw [satcatEvents]
  split
  · exact List.forall_mem_nil _
  · exact objectEvents_codes _ _

/-- The upsert of a record adds its number to the catalogue, and no other. -/
theorem UpsertedRow.mem_keys (h : UpsertedRow X registry call obj db db') {k : Int} :
    k ∈ db'.objects.keys ↔ k ∈ db.objects.keys ∨ k = obj.noradCatId := by
  obtain ⟨row, hr, ho⟩ := h.row
  rw [ho, Table.mem_keys_upsert, (ObjectRow.ofRecord_ok hr).1]

end

/-! ## The batch -/

section
variable {X : Externals} {call : Call}

/-- A batch is its first record and then the others, and reports the events of both. -/
theorem upsertObjectsFromSatcat_cons_ok {registry : RuleRegistry ObjectState} {obj : ObjectRecord}
    {objs : List ObjectRecord} {db db' : Database} {events : List DetectedEvent} :
    Sql.upsertObjectsFromSatcat X registry call (obj :: objs) db = .ok (events, db') ↔
      ∃ e₁ db₁ e₂, Sql.upsertRow X registry call obj db = .ok (e₁, db₁) ∧
        Sql.upsertObjectsFromSatcat X registry call objs db₁ = .ok (e₂, db') ∧
        events = e₁ ++ e₂ := by
  simp only [Sql.upsertObjectsFromSatcat, bind_eq_ok]
  refine ⟨?_, ?_⟩
  · rintro ⟨⟨e₁, db₁⟩, h₁, ⟨e₂, db₂⟩, h₂, ⟨⟩⟩
    exact ⟨e₁, db₁, e₂, h₁, h₂, rfl⟩
  · rintro ⟨e₁, db₁, e₂, h₁, h₂, rfl⟩
    exact ⟨(e₁, db₁), h₁, (e₂, db'), h₂, rfl⟩

/-- A batch of two lists in a row is the one batch after the other. -/
theorem upsertObjectsFromSatcat_append_ok {registry : RuleRegistry ObjectState}
    {xs ys : List ObjectRecord} {db db' : Database} {events : List DetectedEvent} :
    Sql.upsertObjectsFromSatcat X registry call (xs ++ ys) db = .ok (events, db') ↔
      ∃ e₁ db₁ e₂, Sql.upsertObjectsFromSatcat X registry call xs db = .ok (e₁, db₁) ∧
        Sql.upsertObjectsFromSatcat X registry call ys db₁ = .ok (e₂, db') ∧
        events = e₁ ++ e₂ := by
  induction xs generalizing db events with
  | nil => simp [Sql.upsertObjectsFromSatcat]
  | cons obj xs ih =>
    rw [List.cons_append, upsertObjectsFromSatcat_cons_ok]
    simp only [upsertObjectsFromSatcat_cons_ok, ih]
    refine ⟨?_, ?_⟩
    · rintro ⟨e₁, db₁, _, h₁, ⟨e₂, db₂, e₃, h₂, h₃, rfl⟩, rfl⟩
      exact ⟨e₁ ++ e₂, db₂, e₃, ⟨e₁, db₁, e₂, h₁, h₂, rfl⟩, h₃, (List.append_assoc _ _ _).symm⟩
    · rintro ⟨_, db₂, e₃, ⟨e₁, db₁, e₂, h₁, h₂, rfl⟩, h₃, rfl⟩
      exact ⟨e₁, db₁, e₂ ++ e₃, h₁, ⟨e₂, db₂, e₃, h₂, h₃, rfl⟩, List.append_assoc _ _ _⟩

/-- A batch goes through exactly when the columns take every record of it. -/
theorem upsertObjectsFromSatcat_ok_iff {objs : List ObjectRecord} {db : Database} :
    (∃ r, Sql.upsertObjectsFromSatcat X makeDefaultObjectRuleRegistry call objs db = .ok r) ↔
      ∀ obj ∈ objs, obj.Storable X := by
  induction objs generalizing db with
  | nil => simp [Sql.upsertObjectsFromSatcat]
  | cons obj objs ih =>
    rw [List.forall_mem_cons]
    constructor
    · rintro ⟨r, h⟩
      simp only [Sql.upsertObjectsFromSatcat, bind_eq_ok] at h
      obtain ⟨⟨events, db₁⟩, h₁, r₂, h₂, -⟩ := h
      exact ⟨(upsertRow_ok h₁).2.storable, ih.1 ⟨r₂, h₂⟩⟩
    · rintro ⟨ho, hos⟩
      obtain ⟨⟨events, db₁⟩, h₁⟩ : ∃ r, Sql.upsertRow X makeDefaultObjectRuleRegistry call obj db =
        .ok r := exists_upsertRow ho
      obtain ⟨r₂, h₂⟩ : ∃ r, Sql.upsertObjectsFromSatcat X makeDefaultObjectRuleRegistry call objs
        db₁ = .ok r := ih.2 hos
      refine ⟨(events ++ r₂.1, r₂.2), ?_⟩
      simp only [Sql.upsertObjectsFromSatcat, bind_eq_ok]
      exact ⟨_, h₁, r₂, h₂, rfl⟩

/-- What every row of a batch preserves, the batch does. -/
theorem upsertObjectsFromSatcat_preserves {registry : RuleRegistry ObjectState}
    {P : Database → Prop} {objs : List ObjectRecord} {db : Database}
    {r : List DetectedEvent × Database}
    (hrow : ∀ obj ∈ objs, ∀ db db', UpsertedRow X registry call obj db db' → P db → P db')
    (h : Sql.upsertObjectsFromSatcat X registry call objs db = .ok r) (hp : P db) : P r.2 := by
  induction objs generalizing db r with
  | nil =>
    cases h
    exact hp
  | cons obj objs ih =>
    obtain ⟨e₁, db₁, e₂, h₁, h₂, -⟩ := upsertObjectsFromSatcat_cons_ok.1 h
    have hp₁ : P db₁ := hrow obj (.head _) db db₁ (upsertRow_ok h₁).2 hp
    exact @ih db₁ (e₂, r.2) (fun o ho => hrow o (.tail _ ho)) h₂ hp₁

/-- The numbers in the catalogue after a batch. -/
theorem upsertObjectsFromSatcat_keys {registry : RuleRegistry ObjectState}
    {objs : List ObjectRecord} {db : Database} {r : List DetectedEvent × Database}
    (h : Sql.upsertObjectsFromSatcat X registry call objs db = .ok r) (k : Int) :
    k ∈ r.2.objects.keys ↔ k ∈ db.objects.keys ∨ ∃ obj ∈ objs, obj.noradCatId = k := by
  induction objs generalizing db r with
  | nil =>
    cases h
    simp
  | cons obj objs ih =>
    obtain ⟨e₁, db₁, e₂, h₁, h₂, -⟩ := upsertObjectsFromSatcat_cons_ok.1 h
    rw [ih h₂, (upsertRow_ok h₁).2.mem_keys, List.exists_mem_cons_iff, or_assoc,
      @eq_comm _ k obj.noradCatId]

end

/-! ## A whole response -/

/-- The tables after the batch of a response, when there is a batch and it commits. -/
def satcatBatch (X : Externals) (call : Call) (jsonBody : String) (db : Database) :
    Option Database :=
  match call.fault, parseSatcatResponse X jsonBody with
  | .none, .ok objs =>
    match Sql.upsertObjectsFromSatcat X makeDefaultObjectRuleRegistry call objs db with
    | .ok r => some r.2
    | .error _ => none
  | _, _ => none

section
variable {X : Externals} {call : Call} {jsonBody : String} {db db' : Database}

/-- A batch that is committed was parsed, and its call went through. -/
theorem satcatBatch_some (h : satcatBatch X call jsonBody db = some db') :
    call.fault = .none ∧ ∃ objs, parseSatcatResponse X jsonBody = .ok objs ∧ ∃ events,
      Sql.upsertObjectsFromSatcat X makeDefaultObjectRuleRegistry call objs db =
      .ok (events, db') := by
  unfold satcatBatch at h
  split at h
  · next objs hf hp =>
    split at h
    · next r hr =>
      cases h
      exact ⟨hf, objs, hp, r.1, hr⟩
    · cases h
  · cases h

/-- A batch commits exactly when its call goes through and the columns take every record. -/
theorem satcatBatch_isSome : (∃ db', satcatBatch X call jsonBody db = some db') ↔
    call.fault = .none ∧ ∃ objs, parseSatcatResponse X jsonBody = .ok objs ∧
      ∀ obj ∈ objs, obj.Storable X := by
  constructor
  · rintro ⟨db', h⟩
    obtain ⟨hf, objs, hp, events, hr⟩ := satcatBatch_some h
    exact ⟨hf, objs, hp, upsertObjectsFromSatcat_ok_iff.1 ⟨_, hr⟩⟩
  · rintro ⟨hf, objs, hp, hs⟩
    obtain ⟨r, hr⟩ : ∃ r, Sql.upsertObjectsFromSatcat X makeDefaultObjectRuleRegistry call objs db =
      .ok r := upsertObjectsFromSatcat_ok_iff.2 hs
    refine ⟨r.2, ?_⟩
    simp only [satcatBatch, hf, hp, hr]

/-- The handler of a failed batch writes nothing. -/
theorem attempt_upsert_db (X : Externals) (objs : List ObjectRecord) (handler : Exn → Job Unit)
    (hh : ∀ e s, (handler e s).2.db = s.db) (s : Session) :
    (Proc.attempt (DbWriter.upsertObjectsFromSatcat X makeDefaultObjectRuleRegistry objs >>=
        fun _ => pure ()) handler s).2.db =
      (DbWriter.upsertObjectsFromSatcat X makeDefaultObjectRuleRegistry objs s).2.db := by
  rw [Proc.attempt_run, Proc.bind_run]
  rcases DbWriter.upsertObjectsFromSatcat X makeDefaultObjectRuleRegistry objs s
    with ⟨_ | e | _, s'⟩
  · rfl
  · exact hh e s'
  · rfl

/-- A response respects what a batch that succeeds respects. -/
theorem satcat_processResponse_within {Q : Database → Database → Prop} [Std.Refl Q]
    [IsTrans Database Q] (X : Externals) (hbatch : ∀ call objs db events db',
      Sql.upsertObjectsFromSatcat X makeDefaultObjectRuleRegistry call objs db = .ok (events, db') →
        Q db db') (jsonBody : String) :
    Proc.Within (OnDb Q) (SatcatPoller.processResponse X jsonBody) := by
  refine (Proc.Within.ofExcept _).bind fun objs => ?_
  refine Proc.Within.attempt (Proc.Within.bind ?_ fun _ => .pure _) fun e => logError_onDb _
  unfold DbWriter.upsertObjectsFromSatcat
  split
  · exact .pure _
  · exact transaction_onDb fun call db events db' h => hbatch call objs db events db' h

/-- A response respects what the upsert of every record respects. -/
theorem satcat_processResponse_onDb {Q : Database → Database → Prop} [Std.Refl Q]
    [IsTrans Database Q] (X : Externals) (hrow : ∀ call obj db db',
      UpsertedRow X makeDefaultObjectRuleRegistry call obj db db' → Q db db') (jsonBody : String) :
    Proc.Within (OnDb Q) (SatcatPoller.processResponse X jsonBody) := by
  refine satcat_processResponse_within X (fun call objs db events db' h => ?_) jsonBody
  exact upsertObjectsFromSatcat_preserves (P := Q db)
    (fun obj _ db₁ db₂ hobj hq => trans_of Q hq (hrow call obj db₁ db₂ hobj)) h (refl_of Q db)

/-- `process_response` commits its batch or leaves the tables as they were. -/
theorem satcat_processResponse_db (X : Externals) (jsonBody : String) (s : Session) :
    (SatcatPoller.processResponse X jsonBody s).2.db =
      (satcatBatch X s.call jsonBody s.db).getD s.db := by
  unfold SatcatPoller.processResponse satcatBatch
  cases hp : parseSatcatResponse X jsonBody with
  | error e =>
    cases s.call.fault <;> rfl
  | ok objs =>
    rw [Proc.ofExcept_ok, pure_bind]
    refine (attempt_upsert_db X objs _ (fun _ _ => rfl) s).trans ?_
    unfold DbWriter.upsertObjectsFromSatcat
    by_cases he : objs = []
    · -- an empty batch is no transaction, and would change nothing
      subst he
      rw [if_pos rfl]
      cases s.call.fault <;> rfl
    · rw [if_neg he]
      cases hf : s.call.fault with
      | stops => rw [transaction_stops hf]; rfl
      | fails => rw [transaction_fails hf]; rfl
      | none =>
        cases hu : Sql.upsertObjectsFromSatcat X makeDefaultObjectRuleRegistry s.call objs s.db with
        | error e =>
          rw [transaction_error (e := e) hf hu]
          simp [hu]
        | ok r =>
          rw [transaction_ok (a := r.1) hf hu]
          simp [hu]

/-- A satcat run commits the batch of one response or leaves the tables as they were. -/
theorem satcat_run_db (X : Externals) (s : Session) :
    ((satcatPoller X).run s).2.db = s.db ∨
      ∃ body s', (satcatPoller X).fetch s = (.ok (some body), s') ∧
      s'.db = s.db ∧ satcatBatch X s'.call body s.db = some ((satcatPoller X).run s).2.db := by
  have hf : ((satcatPoller X).fetch s).2.db = s.db :=
    (fetch_onRun (satcatPoller X) (Q := KeepsDb id) s).1
  unfold Poller.run
  rw [Proc.bind_run]
  rcases hfe : (satcatPoller X).fetch s with ⟨b | e | _, s'⟩ <;> rw [hfe] at hf <;>
    dsimp only at hf ⊢
  · cases b with
    | none => exact .inl hf
    | some body =>
      dsimp only
      rw [handle_db]
      have hdb : ((satcatPoller X).processResponse body s').2.db =
        (satcatBatch X s'.call body s'.db).getD s'.db := satcat_processResponse_db X body s'
      rw [hdb, hf]
      cases hb : satcatBatch X s'.call body s.db with
      | none => exact .inl rfl
      | some db' => exact .inr ⟨body, s', rfl, hf, hb⟩
  · exact .inl hf
  · exact .inl hf

end

end VitaleBackend
