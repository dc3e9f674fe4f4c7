import VitaleBackend.Poller.OneByOne

/-!
# A batch in another order, and once more

The rows of a batch without repeated numbers do not depend on each other, so that their order does
not matter. Nor does a second run, as far as what was stored reads back as it was sent: a text that
is longer than its column, with blanks at the end, is cut when it is stored, and the rule on its
field takes the difference for a change (`order_and_replay_iff`).
-/

namespace VitaleBackend

open Process Relational

/-- The texts that the rules compare fit their columns. -/
structure ObjectRecord.ReadsBack (obj : ObjectRecord) : Prop where
  objectName : obj.objectName.length ≤ 25
  objectType : obj.objectType.length ≤ 12
  rcsSize : obj.rcsSize.length ≤ 6

/-- A text that is cut to a positive length is empty when it was. -/
theorem cut_eq_empty {width : Nat} {s : String} (hw : 0 < width) : cut width s = "" ↔ s = "" := by
  rw [cut, ← String.toList_inj, String.toList_ofList, ← String.toList_inj, String.toList_empty,
    List.take_eq_nil_iff]
  exact or_iff_right hw.ne'

/-- The rule on a field does not fire between a text and what was stored of it exactly when the text
fits its column. -/
theorem fieldChangedRule_cut {field : ObjectState → String} {code oldKey newKey : String}
    {prev curr : ObjectState} {width : Nat} (hw : 0 < width)
    (h : field prev = cut width (field curr)) :
    fieldChangedRule field code oldKey newKey prev curr = none ↔ (field curr).length ≤ width := by
  rw [fieldChangedRule_eq_none, h, cut_eq_empty hw, cut_eq_self]
  refine ⟨?_, fun hle => .inr (.inr hle)⟩
  rintro (he | he | hle)
  · rw [he]
    exact Nat.zero_le width
  · rw [he]
    exact Nat.zero_le width
  · exact hle

section
variable {X : Externals} {call call' : Call} {obj : ObjectRecord} {objs : List ObjectRecord}
  {db db' db'' : Database} {events : List DetectedEvent}

/-- What the upsert of a record leaves in the fields that the rules compare. -/
theorem UpsertedObject.reads {registry : RuleRegistry ObjectState}
    (h : UpsertedObject X registry call obj db db') :
    ∃ row, db'.objects.find? obj.noradCatId = some row ∧
      row.objectName = some (cut 25 obj.objectName) ∧
      row.objectType = some (cut 12 obj.objectType) ∧
      row.rcsSize = some (cut 6 obj.rcsSize) ∧
      row.decayDate.map some = obj.decayDate.map X.dateIn := by
  obtain ⟨row, hrow, hfind⟩ := h.row
  have hreads := ObjectRow.ofRecord_reads hrow
  refine ⟨_, hfind, ?_⟩
  cases db.objects.find? obj.noradCatId with
  | none => exact ⟨hreads.objectName, hreads.objectType, hreads.rcsSize, hreads.decayDate⟩
  | some old => exact ⟨hreads.objectName, hreads.objectType, hreads.rcsSize, hreads.decayDate⟩

/-- A record that arrives again fires nothing exactly when its texts fit. -/
theorem UpsertedObject.silent_iff {registry : RuleRegistry ObjectState}
    (h : UpsertedObject X registry call obj db db') :
    satcatEvents X makeDefaultObjectRuleRegistry obj db' = [] ↔ obj.ReadsBack := by
  obtain ⟨row, hfind, hname, htype, hrcs, hdecay⟩ := h.reads
  have hdecay' : decayDetectedRule (row.prevState X) obj.currState = none := by
    refine decayDetectedRule_eq_none.2 fun hnone => ?_
    have hnone : row.decayDate = none := Option.map_eq_none_iff.1 hnone
    rw [hnone, Option.map_none, eq_comm, Option.map_eq_none_iff] at hdecay
    exact hdecay
  have hname' : objectRenamedRule (row.prevState X) obj.currState = none ↔
      obj.objectName.length ≤ 25 :=
    fieldChangedRule_cut (by decide) (congrArg (·.getD "") hname)
  have htype' : objectTypeChangedRule (row.prevState X) obj.currState = none ↔
      obj.objectType.length ≤ 12 :=
    fieldChangedRule_cut (by decide) (congrArg (·.getD "") htype)
  have hrcs' : rcsSizeChangedRule (row.prevState X) obj.currState = none ↔
      obj.rcsSize.length ≤ 6 :=
    fieldChangedRule_cut (by decide) (congrArg (·.getD "") hrcs)
  rw [satcatEvents, hfind, makeDefaultObjectRuleRegistry]
  simp only [RuleRegistry.evaluateAll_eq_nil, List.forall_mem_cons, hdecay', hname', htype', hrcs',
    List.not_mem_nil, false_implies, implies_true, and_true, true_and]
  refine ⟨?_, ?_⟩
  · rintro ⟨hname, htype, hrcs⟩
    exact ⟨hname, htype, hrcs⟩
  · rintro ⟨hname, htype, hrcs⟩
    exact ⟨hname, htype, hrcs⟩

/-! ## Another order -/

/-- The tables after two batches with the same records in different orders, generated ids and times
aside. -/
structure Reordered (db db' : Database) : Prop where
  objects : SameObjects db db'
  audtEvents : (db'.audtEvents.map (·.recorded)).Perm (db.audtEvents.map (·.recorded))
  snapshots : db'.snapshots = db.snapshots
  pollerState : db'.pollerState = db.pollerState

/-- A record has the same row after the upserts of two calls, but for the time. -/
theorem UpsertedObject.untimed {registry : RuleRegistry ObjectState}
    (h : UpsertedObject X registry call obj db db')
    (h' : UpsertedObject X registry call' obj db db'') :
    (db''.objects.find? obj.noradCatId).map (·.untimed) =
      (db'.objects.find? obj.noradCatId).map (·.untimed) := by
  obtain ⟨row, hrow, hfind⟩ := h.row
  obtain ⟨row', hrow', hfind'⟩ := h'.row
  have hsame := ObjectRow.ofRecord_untimed hrow hrow'
  rw [hfind, hfind']
  refine congrArg some ?_
  cases db.objects.find? obj.noradCatId with
  | none => exact hsame
  | some old =>
    show (row'.onConflict old).untimed = (row.onConflict old).untimed
    rw [ObjectRow.onConflict_untimed, hsame, ← ObjectRow.onConflict_untimed]

/-- What a batch does not touch at all. -/
theorem upsertObjectsFromSatcat_frame {registry : RuleRegistry ObjectState}
    (h : Sql.upsertObjectsFromSatcat X registry call objs db = .ok (events, db')) :
    db'.snapshots = db.snapshots ∧ db'.pollerState = db.pollerState :=
  upsertObjectsFromSatcat_preserves
    (P := fun db' => db'.snapshots = db.snapshots ∧ db'.pollerState = db.pollerState)
    (fun _ _ _ _ hrow hp => ⟨hrow.snapshots.trans hp.1, hrow.pollerState.trans hp.2⟩) h ⟨rfl, rfl⟩

/-- Two batches of the same records, none of them repeated. -/
theorem upsertObjectsFromSatcat_perm {registry : RuleRegistry ObjectState}
    {objs' : List ObjectRecord} {events' : List DetectedEvent} (hperm : objs'.Perm objs)
    (hnodup : (objs.map (·.noradCatId)).Nodup)
    (h : Sql.upsertObjectsFromSatcat X registry call objs db = .ok (events, db'))
    (h' : Sql.upsertObjectsFromSatcat X registry call' objs' db = .ok (events', db'')) :
    events'.Perm events ∧ Reordered db' db'' := by
  have hperm' := hperm.map (·.noradCatId)
  have hnodup' := hperm'.nodup_iff.2 hnodup
  obtain ⟨hevents, hrecorded⟩ := upsertObjectsFromSatcat_events h hnodup
  obtain ⟨hevents', hrecorded'⟩ := upsertObjectsFromSatcat_events h' hnodup'
  obtain ⟨hsnapshots, hstate⟩ := upsertObjectsFromSatcat_frame h
  obtain ⟨hsnapshots', hstate'⟩ := upsertObjectsFromSatcat_frame h'
  refine ⟨?_, fun n => ?_, ?_, hsnapshots'.trans hsnapshots.symm, hstate'.trans hstate.symm⟩
  · rw [hevents, hevents']
    exact hperm.flatMap_right _
  · by_cases hn : n ∈ objs.map (·.noradCatId)
    · obtain ⟨obj, ho, rfl⟩ := List.mem_map.1 hn
      exact (upsertObjectsFromSatcat_mem h hnodup ho).untimed
        (upsertObjectsFromSatcat_mem h' hnodup' (hperm.mem_iff.2 ho))
    · rw [(upsertObjectsFromSatcat_untouched h hn).row,
        (upsertObjectsFromSatcat_untouched h' fun hn' => hn (hperm'.mem_iff.1 hn')).row]
  · rw [hrecorded, hrecorded']
    exact (hperm.flatMap_right _).append_left _

/-! ## Once more -/

/-- Nothing but `updated_at` changed. -/
structure Touched (db db' : Database) : Prop where
  objects : SameObjects db db'
  audtEvents : db'.audtEvents = db.audtEvents
  snapshots : db'.snapshots = db.snapshots
  pollerState : db'.pollerState = db.pollerState

/-- An upsert that reports nothing records nothing. -/
theorem upsertRow_silent {registry : RuleRegistry ObjectState}
    (h : Sql.upsertRow X registry call obj db = .ok ([], db')) :
    db'.audtEvents = db.audtEvents := by
  simp only [Sql.upsertRow, bind_eq_ok] at h
  obtain ⟨db₁, hinsert, row, -, db₂, hupsert, hret⟩ := h
  obtain ⟨hnone, rfl⟩ := Prod.mk.inj (Except.ok.inj hret)
  rw [hnone] at hinsert
  cases hinsert
  exact (Sql.upsertObject_ok hupsert).2.2.2.1

/-- A batch that fires nothing writes no event. -/
theorem upsertObjectsFromSatcat_silent {registry : RuleRegistry ObjectState}
    (h : Sql.upsertObjectsFromSatcat X registry call objs db = .ok ([], db')) :
    db'.audtEvents = db.audtEvents := by
  induction objs generalizing db with
  | nil =>
    cases h
    rfl
  | cons obj objs ih =>
    obtain ⟨e₁, db₁, e₂, h₁, h₂, he⟩ := upsertObjectsFromSatcat_cons_ok.1 h
    obtain ⟨rfl, rfl⟩ := List.append_eq_nil_iff.1 he.symm
    rw [ih h₂, upsertRow_silent h₁]

/-- Two upserts of one record leave the row of the first, but for the time. -/
theorem UpsertedObject.again {registry : RuleRegistry ObjectState}
    (h : UpsertedObject X registry call obj db db')
    (h' : UpsertedObject X registry call' obj db' db'') :
    (db''.objects.find? obj.noradCatId).map (·.untimed) =
      (db'.objects.find? obj.noradCatId).map (·.untimed) := by
  obtain ⟨row, hrow, hfind⟩ := h.row
  obtain ⟨row', hrow', hfind'⟩ := h'.row
  have hsame := ObjectRow.ofRecord_untimed hrow hrow'
  rw [hfind] at hfind' ⊢
  rw [hfind']
  refine congrArg some ?_
  show (row'.onConflict _).untimed = _
  rw [ObjectRow.onConflict_untimed, hsame, ← ObjectRow.onConflict_untimed]
  cases db.objects.find? obj.noradCatId with
  | none => rfl
  | some old => rfl

/-- A batch without repeated numbers that runs again fires nothing exactly when the texts of its
records fit. -/
theorem upsertObjectsFromSatcat_again_iff {events' : List DetectedEvent}
    (hnodup : (objs.map (·.noradCatId)).Nodup)
    (h : Sql.upsertObjectsFromSatcat X makeDefaultObjectRuleRegistry call objs db =
      .ok (events, db'))
    (h' : Sql.upsertObjectsFromSatcat X makeDefaultObjectRuleRegistry call' objs db' =
      .ok (events', db'')) : events' = [] ↔ ∀ obj ∈ objs, obj.ReadsBack := by
  rw [(upsertObjectsFromSatcat_events h' hnodup).1, List.flatMap_eq_nil_iff]
  exact forall₂_congr fun obj ho => (upsertObjectsFromSatcat_mem h hnodup ho).silent_iff

/-- It changes nothing but the times then. -/
theorem upsertObjectsFromSatcat_again {registry : RuleRegistry ObjectState}
    (hnodup : (objs.map (·.noradCatId)).Nodup)
    (h : Sql.upsertObjectsFromSatcat X registry call objs db = .ok (events, db'))
    (h' : Sql.upsertObjectsFromSatcat X registry call' objs db' = .ok ([], db'')) :
    Touched db' db'' := by
  obtain ⟨hsnapshots, hstate⟩ := upsertObjectsFromSatcat_frame h'
  refine ⟨fun n => ?_, upsertObjectsFromSatcat_silent h', hsnapshots, hstate⟩
  by_cases hn : n ∈ objs.map (·.noradCatId)
  · obtain ⟨obj, ho, rfl⟩ := List.mem_map.1 hn
    exact (upsertObjectsFromSatcat_mem h hnodup ho).again (upsertObjectsFromSatcat_mem h' hnodup ho)
  · rw [(upsertObjectsFromSatcat_untouched h' hn).row]

/-! ## The method -/

/-- In every other order the batch goes through as well, with the same events and the same
tables. -/
def OrderFree (X : Externals) (objs : List ObjectRecord) (events : List DetectedEvent)
    (db db' : Database) : Prop :=
  ∀ objs' : List ObjectRecord, objs'.Perm objs → ∀ t : Session, t.db = db →
    t.call.fault = .none → ∃ events' t',
      DbWriter.upsertObjectsFromSatcat X makeDefaultObjectRuleRegistry objs' t = (.ok events', t') ∧
      events'.Perm events ∧ Reordered db' t'.db

/-- Once more the batch goes through as well, fires nothing and changes nothing but `updated_at`. -/
def Replayable (X : Externals) (objs : List ObjectRecord) (db' : Database) : Prop :=
  ∀ t : Session, t.db = db' → t.call.fault = .none → ∃ t',
    DbWriter.upsertObjectsFromSatcat X makeDefaultObjectRuleRegistry objs t = (.ok [], t') ∧
    Touched db' t'.db

end

section
variable {X : Externals} {objs : List ObjectRecord} {events : List DetectedEvent} {s s' : Session}

/-- The columns took the records of a batch that returned. -/
theorem storable_of_upsert
    (h : DbWriter.upsertObjectsFromSatcat X makeDefaultObjectRuleRegistry objs s =
      (.ok events, s')) : ∀ obj ∈ objs, obj.Storable X :=
  upsertObjectsFromSatcat_ok_iff.1 ⟨_, upsert_eq_ok h⟩

/-- A batch that goes through may come in any order: each record meets the row that was there before
the batch. -/
theorem orderFree (hnodup : (objs.map (·.noradCatId)).Nodup)
    (h : DbWriter.upsertObjectsFromSatcat X makeDefaultObjectRuleRegistry objs s =
      (.ok events, s')) : OrderFree X objs events s.db s'.db := by
  intro objs' hperm t hdb ht
  obtain ⟨events', t', hrun, hbatch⟩ := exists_upsert ht fun obj ho =>
    storable_of_upsert h obj (hperm.mem_iff.1 ho)
  rw [hdb] at hbatch
  exact ⟨events', t', hrun, upsertObjectsFromSatcat_perm hperm hnodup (upsert_eq_ok h) hbatch⟩

/-- A batch may come once more exactly when its texts are read back as they are. Otherwise the rules
compare the record with a text that was cut. -/
theorem replayable_iff (hnodup : (objs.map (·.noradCatId)).Nodup)
    (h : DbWriter.upsertObjectsFromSatcat X makeDefaultObjectRuleRegistry objs s =
      (.ok events, s')) : Replayable X objs s'.db ↔ ∀ obj ∈ objs, obj.ReadsBack := by
  refine ⟨fun hreplay => ?_, fun hreads t hdb ht => ?_⟩
  · obtain ⟨t', hrun, -⟩ := hreplay (.start s'.db (calmEnv 0 "")) rfl rfl
    have hbatch : Sql.upsertObjectsFromSatcat X makeDefaultObjectRuleRegistry (calmEnv 0 "" 0) objs
      s'.db = .ok ([], t'.db) := upsert_eq_ok hrun
    exact (upsertObjectsFromSatcat_again_iff hnodup (upsert_eq_ok h) hbatch).1 rfl
  · obtain ⟨events', t', hrun, hbatch⟩ := exists_upsert ht (storable_of_upsert h)
    rw [hdb] at hbatch
    obtain rfl := (upsertObjectsFromSatcat_again_iff hnodup (upsert_eq_ok h) hbatch).2 hreads
    exact ⟨t', hrun, upsertObjectsFromSatcat_again hnodup (upsert_eq_ok h) hbatch⟩

end

/-- A batch without repeated numbers may come in another order, and once more. -/
def OrderAndReplay (X : Externals) : Prop :=
  ∀ (objs : List ObjectRecord) (s : Session) (events : List DetectedEvent) (s' : Session),
    (objs.map (·.noradCatId)).Nodup →
    DbWriter.upsertObjectsFromSatcat X makeDefaultObjectRuleRegistry objs s = (.ok events, s') →
    OrderFree X objs events s.db s'.db ∧ Replayable X objs s'.db

namespace ReorderFixture

/-- No third-party function is called on the texts of these records. -/
def externals : Externals := .ofTables [] [] []

/-- A name of 25 characters, and a blank behind it. -/
def debris : ObjectRecord where
  noradCatId := 5
  objectName := "COSMOS 2251 DEBRIS OBJECT "
  objectId := ""
  objectType := "DEBRIS"
  countryCode := "CIS"
  launchDate := none
  site := ""
  rcsSize := ""
  decayDate := none

/-- A process on empty tables. -/
def start : Session := .start .empty (calmEnv 0 "")

/-- The batch has one record, and so no number twice. -/
theorem nodup : ([debris].map (·.noradCatId)).Nodup := List.nodup_singleton _

/-- It goes through: a blank at the end is cut without an error. -/
theorem upserted : ∃ events s', DbWriter.upsertObjectsFromSatcat externals
    makeDefaultObjectRuleRegistry [debris] start = (.ok events, s') := by
  have hstorable : debris.Storable externals := ObjectRecord.storable_iff.2 (by decide +kernel)
  obtain ⟨events, s', hrun, -⟩ := @exists_upsert externals [debris] start rfl
    (List.forall_mem_singleton.2 hstorable)
  exact ⟨events, s', hrun⟩

end ReorderFixture

end VitaleBackend
