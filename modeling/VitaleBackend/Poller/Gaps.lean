import VitaleBackend.Lib.Changelog
import VitaleBackend.Poller.Batch

/-!
# Changes behind incomplete records

Three rules compare a text field of an incoming record with the stored one and stay silent when one
of the two is empty. But the upsert stores the empty text all the same, so that the value before it
is gone when the next one arrives. `changes_exact_iff` says for which sequences of values the events
are the changes of the non-empty ones: those in which the stored value never differs from the last
non-empty one when it matters (`Unhidden`).
-/

namespace VitaleBackend

open Process Relational Changelog

/-! ## The fields -/

/-- The text fields whose changes are events. -/
inductive TextField where
  | objectName | objectType | rcsSize
  deriving DecidableEq

namespace TextField

/-- The field of a record. -/
def ofRecord (obj : ObjectRecord) : TextField → String
  | objectName => obj.objectName
  | objectType => obj.objectType
  | rcsSize => obj.rcsSize

/-- The column of the field, where NULL stands for no text. -/
def ofRow (row : ObjectRow) : TextField → Option String
  | objectName => row.objectName
  | objectType => row.objectType
  | rcsSize => row.rcsSize

/-- The field of the state that the rules compare. -/
def ofState (state : ObjectState) : TextField → String
  | objectName => state.objectName
  | objectType => state.objectType
  | rcsSize => state.rcsSize

/-- The length of its column. -/
def width : TextField → Nat
  | objectName => 25
  | objectType => 12
  | rcsSize => 6

/-- The code of its events. -/
def code : TextField → String
  | objectName => "object_renamed"
  | objectType => "object_type_changed"
  | rcsSize => "rcs_size_changed"

/-- The key of the old value in its events. -/
def oldKey : TextField → String
  | objectName => "old_name"
  | objectType => "old_type"
  | rcsSize => "old_rcs_size"

/-- The key of the new value in its events. -/
def newKey : TextField → String
  | objectName => "new_name"
  | objectType => "new_type"
  | rcsSize => "new_rcs_size"

/-- The event of a change from one value to another. -/
def change (f : TextField) (p : String × String) : DetectedEvent :=
  ⟨f.code, .obj [(f.oldKey, .str p.1), (f.newKey, .str p.2)]⟩

/-- The event of a change says which change it was. -/
theorem change_injective (f : TextField) : Function.Injective f.change := by
  intro p q h
  simp only [change, DetectedEvent.mk.injEq, Json.obj.injEq, List.cons.injEq, Prod.mk.injEq,
    Json.str.injEq, true_and, and_true] at h
  exact Prod.ext h.1 h.2

end TextField

/-! ## What is fired and what is wanted -/

/-- The change that the rule of a field sees between the stored value and the incoming one. -/
def fired (old new : String) : List (String × String) :=
  if old = "" ∨ new = "" ∨ old = new then [] else [(old, new)]

/-- The changes of a sequence of values, the empty ones left out; the first one is where it starts
from. -/
def changesOf (start : String) (values : List String) : List (String × String) :=
  (neighbours ((start :: values).filter (· ≠ ""))).filter fun p => p.1 ≠ p.2

/-- A single value makes the change that the rule fires for. -/
theorem changesOf_singleton (start v : String) : changesOf start [v] = fired start v := by
  by_cases hs : start = ""
  · by_cases hv : v = "" <;> simp [changesOf, fired, hs, hv]
  · by_cases hv : v = ""
    · simp [changesOf, fired, hs, hv]
    · by_cases hsv : start = v <;> simp [changesOf, fired, hs, hv, hsv]

/-- A sequence goes on from its last non-empty value. -/
theorem changesOf_cons (start v : String) (vs : List String) : changesOf start (v :: vs) =
    fired start v ++ changesOf (if v = "" then start else v) vs := by
  rw [← changesOf_singleton]
  by_cases hv : v = ""
  · by_cases hs : start = "" <;> simp [changesOf, hv, hs]
  · by_cases hs : start = ""
    · simp [changesOf, hv, hs]
    · by_cases hsv : start = v <;> simp [changesOf, hv, hs, hsv]

/-- Between the stored value and the incoming one the rule sees what it would see from the last
non-empty one exactly when the incoming value is empty, the stored one is the last non-empty one, or
that one comes again behind an empty one. -/
theorem fired_eq_fired {stored last v : String} (h : last = "" → stored = "") :
    fired stored v = fired last v ↔ v = "" ∨ stored = last ∨ (stored = "" ∧ v = last) := by
  by_cases hv : v = ""
  · simp [fired, hv]
  by_cases hl : last = ""
  · simp [fired, hl, h hl]
  by_cases hs : stored = ""
  · simp [fired, hv, hs, hl, Ne.symm hl, eq_comm]
  · grind [fired]

/-- In a sequence of values no change is hidden: whenever a non-empty value arrives, the value that
is stored is the last non-empty one, or that one comes again behind an empty one. -/
def Unhidden (f : TextField) (stored last : String) : List String → Prop
  | [] => True
  | v :: vs => (v = "" ∨ stored = last ∨ (stored = "" ∧ v = last)) ∧
      Unhidden f (cut f.width v) (if v = "" then last else v) vs

/-! ## One batch -/

/-- The value of the field that is stored for an object. -/
def storedField (f : TextField) (n : Int) (db : Database) : String :=
  ((db.objects.find? n).bind f.ofRow).getD ""

/-- The changes of the field that are recorded for an object. -/
def recordedChanges (f : TextField) (n : Int) (db : Database) : List DetectedEvent :=
  ((eventsOf n db).map (·.event)).filter (·.eventTypeCode = f.code)

/-- The rule on a text field, as the changes that it sees. -/
theorem fieldChangedRule_toList (field : ObjectState → String) (code oldKey newKey : String)
    (prev curr : ObjectState) : (fieldChangedRule field code oldKey newKey prev curr).toList =
      (fired (field prev) (field curr)).map fun p =>
        ⟨code, .obj [(oldKey, .str p.1), (newKey, .str p.2)]⟩ := by
  rw [fieldChangedRule, fired]
  by_cases hempty : field prev = "" ∨ field curr = ""
  · rw [if_pos hempty, if_pos (or_assoc.1 (.inl hempty))]
    rfl
  · by_cases hsame : field prev = field curr
    · rw [if_neg hempty, if_pos hsame, if_pos (.inr (.inr hsame))]
      rfl
    · rw [if_neg hempty, if_neg hsame, if_neg (by tauto)]
      rfl

/-- The events of one field among those of the default registry. -/
theorem filter_objectEvents (f : TextField) (prev curr : ObjectState) :
    (makeDefaultObjectRuleRegistry.evaluateAll prev curr).filter (·.eventTypeCode = f.code) =
      (fired (f.ofState prev) (f.ofState curr)).map f.change := by
  have hrenamed : objectRenamedRule.Reports "object_renamed" := fieldChangedRule_reports _ _ _ _
  have htype : objectTypeChangedRule.Reports "object_type_changed" :=
    fieldChangedRule_reports _ _ _ _
  have hrcs : rcsSizeChangedRule.Reports "rcs_size_changed" := fieldChangedRule_reports _ _ _ _
  rw [makeDefaultObjectRuleRegistry, RuleRegistry.filter_evaluateAll_cons decayDetectedRule_reports,
    RuleRegistry.filter_evaluateAll_cons hrenamed, RuleRegistry.filter_evaluateAll_cons htype,
    RuleRegistry.filter_evaluateAll_cons hrcs]
  cases f
  · refine Eq.trans (b := (objectRenamedRule prev curr).toList) ?_
      (fieldChangedRule_toList _ _ _ _ prev curr)
    simp [TextField.code]
  · refine Eq.trans (b := (objectTypeChangedRule prev curr).toList) ?_
      (fieldChangedRule_toList _ _ _ _ prev curr)
    simp [TextField.code]
  · refine Eq.trans (b := (rcsSizeChangedRule prev curr).toList) ?_
      (fieldChangedRule_toList _ _ _ _ prev curr)
    simp [TextField.code]

section
variable {X : Externals} {call : Call} {obj : ObjectRecord} {db db' : Database}

/-- What the upsert of a record records of a field. -/
theorem UpsertedObject.recordedChanges (f : TextField)
    (h : UpsertedObject X makeDefaultObjectRuleRegistry call obj db db') :
    recordedChanges f obj.noradCatId db' = recordedChanges f obj.noradCatId db ++
      (fired (storedField f obj.noradCatId db) (f.ofRecord obj)).map f.change := by
  have hmap : ∀ events : List DetectedEvent, (events.map fun e =>
      (⟨obj.noradCatId, e, none, none⟩ : RecordedEvent)).map (·.event) = events := fun events => by
    rw [List.map_map]
    exact List.map_id'' (fun _ => rfl) events
  rw [VitaleBackend.recordedChanges, h.events, List.map_append, List.filter_append, hmap,
    satcatEvents, storedField]
  cases db.objects.find? obj.noradCatId with
  | none => simp [VitaleBackend.recordedChanges, fired]
  | some row =>
    dsimp only
    rw [filter_objectEvents]
    cases f <;> rfl

/-- What the upsert of a record leaves of a field: the text of the record, cut to its column. -/
theorem UpsertedObject.storedField (f : TextField)
    (h : UpsertedObject X makeDefaultObjectRuleRegistry call obj db db') :
    storedField f obj.noradCatId db' = cut f.width (f.ofRecord obj) := by
  obtain ⟨row, hrow, hfind⟩ := h.row
  have hr := ObjectRow.ofRecord_reads hrow
  have hfield : ∀ row', f.ofRow (row.onConflict row') = f.ofRow row := fun _ => by cases f <;> rfl
  have hself : (f.ofRow row).getD "" = cut f.width (f.ofRecord obj) := by
    cases f with
    | objectName => exact congrArg (·.getD "") hr.objectName
    | objectType => exact congrArg (·.getD "") hr.objectType
    | rcsSize => exact congrArg (·.getD "") hr.rcsSize
  rw [VitaleBackend.storedField, hfind, Option.bind_some]
  cases db.objects.find? obj.noradCatId with
  | none => exact hself
  | some row' => exact (congrArg (·.getD "") (hfield row')).trans hself

end

/-! ## Sequences of batches -/

/-- A batch that has an object once is committed. -/
def ReceivesOnce (X : Externals) (db : Database) (obj : ObjectRecord) (db' : Database) : Prop :=
  ∃ s pre post events s', s.db = db ∧ s'.db = db' ∧
    DbWriter.upsertObjectsFromSatcat X makeDefaultObjectRuleRegistry (pre ++ obj :: post) s =
      (.ok events, s') ∧
    obj.noradCatId ∉ pre.map (·.noradCatId) ∧ obj.noradCatId ∉ post.map (·.noradCatId)

/-- A sequence of batches that each have the object once: its record in each, and the tables
after. -/
def SatcatRun (X : Externals) (n : Int) : Database → List (ObjectRecord × Database) → Prop
  | _, [] => True
  | db, (obj, db') :: steps =>
    obj.noradCatId = n ∧ ReceivesOnce X db obj db' ∧ SatcatRun X n db' steps

/-- After every batch the changes of the field recorded since the start are those of the values
received, from a value on. -/
def RecordsChanges (f : TextField) (n : Int) (db : Database) (start : String)
    (steps : List (ObjectRecord × Database)) : Prop :=
  ∀ pre obj db' post, steps = pre ++ (obj, db') :: post → recordedChanges f n db' =
    recordedChanges f n db ++
      (changesOf start (pre.map (f.ofRecord ·.1) ++ [f.ofRecord obj])).map f.change

/-- No change of a field is hidden by an incomplete record. -/
def ChangesNotHidden (X : Externals) : Prop :=
  ∀ (f : TextField) n db steps, SatcatRun X n db steps →
    RecordsChanges f n db (storedField f n db) steps

section
variable {X : Externals} {f : TextField} {n : Int} {db db' : Database} {obj : ObjectRecord}
  {start : String} {steps : List (ObjectRecord × Database)}

/-- What is received once of an object is upserted once: the records before and after it in the
batch are of other objects. -/
theorem ReceivesOnce.upserted (h : ReceivesOnce X db obj db') :
    ∃ call, UpsertedObject X makeDefaultObjectRuleRegistry call obj db db' := by
  obtain ⟨s, pre, post, events, s', rfl, rfl, hrun, hpre, hpost⟩ := h
  exact ⟨s.call, upsertObjectsFromSatcat_once (upsert_eq_ok hrun) hpre hpost⟩

/-- The changes recorded by a sequence are those of its first batch and those of the others. -/
theorem recordsChanges_cons
    (hfirst : recordedChanges f n db' = recordedChanges f n db ++
      (fired start (f.ofRecord obj)).map f.change) :
    RecordsChanges f n db start ((obj, db') :: steps) ↔
      RecordsChanges f n db' (if f.ofRecord obj = "" then start else f.ofRecord obj) steps := by
  have hsplit : ∀ values : List String, recordedChanges f n db ++
      (changesOf start (f.ofRecord obj :: values)).map f.change = recordedChanges f n db' ++
        (changesOf (if f.ofRecord obj = "" then start else f.ofRecord obj) values).map f.change :=
    fun values => by rw [changesOf_cons, List.map_append, ← List.append_assoc, ← hfirst]
  refine ⟨fun h pre o d post heq => ?_, fun h pre o d post heq => ?_⟩
  · rw [← hsplit]
    exact h ((obj, db') :: pre) o d post (by rw [heq, List.cons_append])
  · cases pre with
    | nil =>
      cases heq
      rw [hfirst, List.map_nil, List.nil_append, changesOf_singleton]
    | cons step pre =>
      cases heq
      rw [h pre o d post rfl, List.map_cons, List.cons_append, hsplit]

/-- From any last non-empty value on, a sequence records the changes of the values it receives
exactly when it hides none. -/
theorem recordsChanges_iff (hrun : SatcatRun X n db steps)
    (h : start = "" → storedField f n db = "") : RecordsChanges f n db start steps ↔
      Unhidden f (storedField f n db) start (steps.map (f.ofRecord ·.1)) := by
  induction steps generalizing db start with
  | nil =>
    refine ⟨fun _ => trivial, fun _ pre obj db' post heq => ?_⟩
    exact absurd heq.symm (List.append_ne_nil_of_right_ne_nil _ (List.cons_ne_nil _ _))
  | cons step steps ih =>
    obtain ⟨obj, db'⟩ := step
    obtain ⟨rfl, hstep, hrest⟩ := hrun
    obtain ⟨call, hup⟩ := hstep.upserted
    have hrec := hup.recordedChanges f
    have hstored := hup.storedField f
    rw [List.map_cons, Unhidden, ← fired_eq_fired h]
    have hnext : (if f.ofRecord obj = "" then start else f.ofRecord obj) = "" →
        storedField f obj.noradCatId db' = "" := by
      intro hempty
      split at hempty
      · next hv =>
        rw [hstored, hv, cut_eq_self]
        exact Nat.zero_le _
      · next hv => exact absurd hempty hv
    rw [← hstored]
    refine ⟨fun hall => ?_, fun ⟨hfired, hunhidden⟩ => ?_⟩
    · -- the first batch is exact by itself
      have hone := hall [] obj db' steps rfl
      rw [List.map_nil, List.nil_append, changesOf_singleton, hrec, List.append_cancel_left_eq,
        List.map_inj_right f.change_injective] at hone
      refine ⟨hone, (ih hrest hnext).1 ((recordsChanges_cons ?_).1 hall)⟩
      rw [hrec, hone]
    · refine (recordsChanges_cons ?_).2 ((ih hrest hnext).2 hunhidden)
      rw [hrec, hfired]

end

namespace GapsFixture

/-- No third-party function is called on the texts of these records. -/
def externals : Externals := .ofTables [] [] []

/-- A record of one object under some name. -/
def named (objectName : String) : ObjectRecord where
  noradCatId := 5
  objectName
  objectId := ""
  objectType := ""
  countryCode := ""
  launchDate := none
  site := ""
  rcsSize := ""
  decayDate := none

/-- A batch of one record is committed when the columns take it. -/
theorem receivesOnce {objectName : String} (h : (named objectName).Storable externals)
    (db : Database) : ∃ db', ReceivesOnce externals db (named objectName) db' := by
  obtain ⟨events, s', hrun, -⟩ := @exists_upsert externals [named objectName]
    (.start db (calmEnv 0 "")) rfl (List.forall_mem_singleton.2 h)
  exact ⟨s'.db, .start db (calmEnv 0 ""), [], [], events, s', rfl, rfl, hrun, List.not_mem_nil,
    List.not_mem_nil⟩

/-- A name, no name, and another name. -/
theorem exists_run : ∃ db₁ db₂ db₃, SatcatRun externals 5 .empty
    [(named "ALPHA", db₁), (named "", db₂), (named "BETA", db₃)] := by
  obtain ⟨db₁, h₁⟩ := @receivesOnce "ALPHA" (ObjectRecord.storable_iff.2 (by decide +kernel)) .empty
  obtain ⟨db₂, h₂⟩ := @receivesOnce "" (ObjectRecord.storable_iff.2 (by decide +kernel)) db₁
  obtain ⟨db₃, h₃⟩ := @receivesOnce "BETA" (ObjectRecord.storable_iff.2 (by decide +kernel)) db₂
  exact ⟨db₁, db₂, db₃, rfl, h₁, rfl, h₂, rfl, h₃, trivial⟩

/-- The empty value hides the change between the two names. -/
theorem hides : ¬ Unhidden .objectName "" "" ["ALPHA", "", "BETA"] := by
  simp [Unhidden, cut]

end GapsFixture

end VitaleBackend
