import Mathlib.Tactic.Tauto
import VitaleBackend.RuleEngine.Basic

/-!
# The rules on catalogue metadata

The four rules of `make_default_object_rule_registry`. Three of them are one rule on one text field
(`fieldChangedRule`), which an empty text on either side keeps from firing: the parser reads an
absent field as the empty text, and missing data is no change.
-/

namespace VitaleBackend

/-- `DecayDetectedRule`: the decay date appears. -/
def decayDetectedRule : Rule ObjectState := fun prev curr =>
  match prev.decayDate, curr.decayDate with
  | none, some decayDate => some ⟨"decay_detected", .obj [("decay_date", .str decayDate)]⟩
  | _, _ => none

/-- A rule that fires when a text field changed between two non-empty values. -/
def fieldChangedRule (field : ObjectState → String) (code oldKey newKey : String) :
    Rule ObjectState := fun prev curr =>
  if field prev = "" ∨ field curr = "" then none
  else if field prev = field curr then none
  else some ⟨code, .obj [(oldKey, .str (field prev)), (newKey, .str (field curr))]⟩

/-- `ObjectRenamedRule`. -/
def objectRenamedRule : Rule ObjectState :=
  fieldChangedRule (·.objectName) "object_renamed" "old_name" "new_name"

/-- `ObjectTypeChangedRule`. -/
def objectTypeChangedRule : Rule ObjectState :=
  fieldChangedRule (·.objectType) "object_type_changed" "old_type" "new_type"

/-- `RcsSizeChangedRule`. -/
def rcsSizeChangedRule : Rule ObjectState :=
  fieldChangedRule (·.rcsSize) "rcs_size_changed" "old_rcs_size" "new_rcs_size"

/-- `make_default_object_rule_registry`. -/
def makeDefaultObjectRuleRegistry : RuleRegistry ObjectState :=
  [decayDetectedRule, objectRenamedRule, objectTypeChangedRule, rcsSizeChangedRule]

/-! ## The codes of the events -/

/-- What makes the decay rule fire, and what it reports. -/
theorem decayDetectedRule_some {prev curr : ObjectState} {event : DetectedEvent} :
    decayDetectedRule prev curr = some event ↔ prev.decayDate = none ∧
      ∃ d, curr.decayDate = some d ∧
        event = ⟨"decay_detected", .obj [("decay_date", .str d)]⟩ := by
  unfold decayDetectedRule
  cases prev.decayDate <;> cases curr.decayDate <;> simp [eq_comm]

/-- A decay is reported under its own code. -/
theorem decayDetectedRule_reports : decayDetectedRule.Reports "decay_detected" := by
  intro prev curr event h
  obtain ⟨-, d, -, rfl⟩ := decayDetectedRule_some.1 h
  rfl

/-- The change of a field is reported under the code of the field. -/
theorem fieldChangedRule_reports (field : ObjectState → String) (code oldKey newKey : String) :
    (fieldChangedRule field code oldKey newKey).Reports code := by
  intro prev curr event h
  unfold fieldChangedRule at h
  split at h
  · cases h
  · split at h <;> cases h
    rfl

/-- What keeps the decay rule from firing. -/
theorem decayDetectedRule_eq_none {prev curr : ObjectState} :
    decayDetectedRule prev curr = none ↔ prev.decayDate = none → curr.decayDate = none := by
  rw [decayDetectedRule]
  cases prev.decayDate <;> cases curr.decayDate <;> simp

/-- What keeps a field rule from firing. -/
theorem fieldChangedRule_eq_none {field : ObjectState → String} {code oldKey newKey : String}
    {prev curr : ObjectState} : fieldChangedRule field code oldKey newKey prev curr = none ↔
      field prev = "" ∨ field curr = "" ∨ field prev = field curr := by
  rw [fieldChangedRule]
  split
  · next h =>
    refine iff_of_true rfl ?_
    tauto
  · next h =>
    split
    · next heq => exact iff_of_true rfl (.inr (.inr heq))
    · next hne =>
      refine iff_of_false nofun ?_
      tauto

/-- The events of the default registry: those of the decay rule, and those of the field rules, which
have other codes. -/
theorem mem_objectEvents {prev curr : ObjectState} {event : DetectedEvent}
    (h : event ∈ makeDefaultObjectRuleRegistry.evaluateAll prev curr) :
    (event.eventTypeCode = "decay_detected" ∧ prev.decayDate = none ∧ curr.decayDate ≠ none) ∨
    event.eventTypeCode ∈ ["object_renamed", "object_type_changed", "rcs_size_changed"] := by
  obtain ⟨rule, hr, he⟩ := RuleRegistry.mem_evaluateAll.1 h
  simp only [makeDefaultObjectRuleRegistry, List.mem_cons, List.not_mem_nil, or_false] at hr
  rcases hr with rfl | rfl | rfl | rfl
  · obtain ⟨hp, d, hc, rfl⟩ := decayDetectedRule_some.1 he
    exact .inl ⟨rfl, hp, by rw [hc]; simp⟩
  · rw [fieldChangedRule_reports _ _ _ _ he]
    exact .inr (by simp)
  · rw [fieldChangedRule_reports _ _ _ _ he]
    exact .inr (by simp)
  · rw [fieldChangedRule_reports _ _ _ _ he]
    exact .inr (by simp)

end VitaleBackend
