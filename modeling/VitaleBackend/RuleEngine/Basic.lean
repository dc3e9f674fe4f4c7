import VitaleBackend.Cpp.Json

/-!
# The rule engine: states, events, registries

`Snapshot` and `ObjectState` mirror the structs of `libs/rule_engine/include`. A rule compares two
consecutive states of one object; a registry runs its rules in the order of registration and
collects what fires. The `detail_json` text of an event is kept as the JSON value it serialises.
-/

namespace VitaleBackend

/-- One GP element set of one object. -/
structure Snapshot where
  id : Nat := 0
  noradCatId : Int := 0
  gpId : Int := 0
  epoch : String := ""
  meanMotion : Double := 0
  eccentricity : Double := 0
  inclination : Double := 0
  raOfAscNode : Double := 0
  argOfPericenter : Double := 0
  meanAnomaly : Double := 0
  semimajorAxis : Double := 0
  period : Double := 0
  apoapsis : Double := 0
  periapsis : Double := 0
  bstar : Double := 0
  meanMotionDot : Double := 0
  meanMotionDdot : Double := 0
  elementSetNo : Int := 0
  revAtEpoch : Int := 0
  tleLine0 : String := ""
  tleLine1 : String := ""
  tleLine2 : String := ""
  decayDate : Option String := none
  deriving DecidableEq

/-- One row of catalogue metadata. -/
structure ObjectState where
  noradCatId : Int := 0
  objectName : String := ""
  objectId : String := ""
  objectType : String := ""
  countryCode : String := ""
  launchDate : Option String := none
  site : String := ""
  rcsSize : String := ""
  decayDate : Option String := none

/-- What a rule that fires reports. -/
structure DetectedEvent where
  eventTypeCode : String
  detailJson : Json

/-- `RuleBase<State>::evaluate`. -/
abbrev Rule (State : Type) := State → State → Option DetectedEvent

/-- `RuleRegistryBase<State>`: the rules in the order of registration. -/
abbrev RuleRegistry (State : Type) := List (Rule State)

/-- Runs every rule on the pair and collects what fires. -/
def RuleRegistry.evaluateAll {State : Type} (registry : RuleRegistry State) (prev curr : State) :
    List DetectedEvent :=
  registry.filterMap fun rule => rule prev curr

/-- Without rules nothing is reported. -/
@[simp] theorem RuleRegistry.evaluateAll_nil {State : Type} (prev curr : State) :
    RuleRegistry.evaluateAll [] prev curr = [] := rfl

/-- What is reported was reported by one of the rules. -/
theorem RuleRegistry.mem_evaluateAll {State : Type} {registry : RuleRegistry State}
    {prev curr : State} {event : DetectedEvent} :
    event ∈ registry.evaluateAll prev curr ↔ ∃ rule ∈ registry, rule prev curr = some event :=
  List.mem_filterMap

/-- Nothing is collected when no rule fires. -/
theorem RuleRegistry.evaluateAll_eq_nil {State : Type} {registry : RuleRegistry State}
    {prev curr : State} :
    registry.evaluateAll prev curr = [] ↔ ∀ rule ∈ registry, rule prev curr = none :=
  List.filterMap_eq_nil_iff

/-- The type codes of what fires, in the order of registration. -/
def RuleRegistry.codes {State : Type} (registry : RuleRegistry State) (prev curr : State) :
    List String :=
  (registry.evaluateAll prev curr).map (·.eventTypeCode)

/-- A rule whose events all carry one type code. -/
def Rule.Reports {State : Type} (rule : Rule State) (code : String) : Prop :=
  ∀ {prev curr event}, rule prev curr = some event → event.eventTypeCode = code

/-- What a registry with the code of its first rule fires under a code. -/
theorem RuleRegistry.filter_evaluateAll_cons {State : Type} {rule : Rule State} {code : String}
    (h : rule.Reports code) (registry : RuleRegistry State) (prev curr : State) (c : String) :
    (RuleRegistry.evaluateAll (rule :: registry) prev curr).filter (·.eventTypeCode = c) =
      (if code = c then (rule prev curr).toList else []) ++
        (registry.evaluateAll prev curr).filter (·.eventTypeCode = c) := by
  rw [evaluateAll, List.filterMap_cons, evaluateAll]
  cases hr : rule prev curr with
  | none => simp
  | some event =>
    by_cases hc : code = c <;> simp [h hr, hc]

/-- The codes of a registry whose first rule has one code. -/
theorem RuleRegistry.codes_cons {State : Type} {rule : Rule State} {code : String}
    (h : rule.Reports code) (registry : RuleRegistry State) (prev curr : State) :
    RuleRegistry.codes (rule :: registry) prev curr =
      (if (rule prev curr).isSome then [code] else []) ++ registry.codes prev curr := by
  unfold RuleRegistry.codes RuleRegistry.evaluateAll
  rw [List.filterMap_cons]
  cases hr : rule prev curr with
  | none => rfl
  | some event =>
    rw [List.map_cons, h hr]
    rfl

/-- Every rule fires at most once, in the order of registration. -/
theorem RuleRegistry.codes_sublist {State : Type} {registry : RuleRegistry State}
    {codes : List String} (h : List.Forall₂ (fun rule code => rule.Reports code) registry codes)
    (prev curr : State) : (registry.codes prev curr).Sublist codes := by
  induction h with
  | nil => exact .slnil
  | cons hrule _ ih =>
    rw [codes_cons hrule]
    split
    · exact ih.cons_cons _
    · exact ih.cons _

end VitaleBackend
