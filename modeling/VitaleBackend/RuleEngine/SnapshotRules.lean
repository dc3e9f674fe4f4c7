import VitaleBackend.RuleEngine.Basic

/-!
# The rules on GP snapshots

The four rules of `make_default_rule_registry`. `raanShiftRule` and `eccentricityChangeRule` are one
rule on one field (`deltaRule`), which fires unless the difference is at most the threshold;
`maneuverDetectedRule` and `dragChangeRule` fire when a difference exceeds it, so that a NaN
difference fires the former two and not the latter.
-/

namespace VitaleBackend

/-- In degrees. -/
def kInclinationDeltaThresholdDeg : Double := 0.01

/-- In kilometres. -/
def kSemimajorAxisDeltaThresholdKm : Double := 1.0

/-- In degrees. -/
def kRaanDeltaThresholdDeg : Double := 0.01

/-- Without a unit. -/
def kEccentricityDeltaThreshold : Double := 0.001

/-- Below it a BSTAR is next to zero, and no percentage is taken of it. -/
def kBstarNearZeroThreshold : Double := 1e-6

/-- As a fraction of the earlier BSTAR. -/
def kBstarPercentChangeThreshold : Double := 0.5

/-- The difference that counts where the earlier BSTAR is next to zero. -/
def kBstarAbsoluteDeltaThreshold : Double := 0.0001

/-- `ManeuverDetectedRule`. -/
def maneuverDetectedRule : Rule Snapshot := fun prev curr =>
  let inclinationDelta := (curr.inclination - prev.inclination).fabs
  let semimajorAxisDelta := (curr.semimajorAxis - prev.semimajorAxis).fabs
  let inclinationFired := kInclinationDeltaThresholdDeg.lt inclinationDelta
  let semimajorAxisFired := kSemimajorAxisDeltaThresholdKm.lt semimajorAxisDelta
  if !inclinationFired && !semimajorAxisFired then none
  else some ⟨"maneuver_detected", .obj
    [("inclination_delta_deg", .num inclinationDelta),
     ("semimajor_axis_delta_km", .num semimajorAxisDelta),
     ("inclination_threshold_deg", .num kInclinationDeltaThresholdDeg),
     ("semimajor_axis_threshold_km", .num kSemimajorAxisDeltaThresholdKm),
     ("inclination_threshold_crossed", .bool inclinationFired),
     ("semimajor_axis_threshold_crossed", .bool semimajorAxisFired),
     ("prev_epoch", .str prev.epoch),
     ("curr_epoch", .str curr.epoch)]⟩

/-- A rule that fires when one field moved by more than a threshold. -/
def deltaRule (field : Snapshot → Double) (threshold : Double)
    (code deltaKey thresholdKey : String) : Rule Snapshot := fun prev curr =>
  let delta := (field curr - field prev).fabs
  if delta.le threshold then none
  else some ⟨code, .obj
    [(deltaKey, .num delta),
     (thresholdKey, .num threshold),
     ("prev_epoch", .str prev.epoch),
     ("curr_epoch", .str curr.epoch)]⟩

/-- `RaanShiftRule`. -/
def raanShiftRule : Rule Snapshot :=
  deltaRule (·.raOfAscNode) kRaanDeltaThresholdDeg "raan_shift" "ra_of_asc_node_delta_deg"
    "threshold_deg"

/-- `EccentricityChangeRule`. -/
def eccentricityChangeRule : Rule Snapshot :=
  deltaRule (·.eccentricity) kEccentricityDeltaThreshold "eccentricity_change"
    "eccentricity_delta" "threshold"

/-- `DragChangeRule`: a relative comparison, and an absolute one when the previous value is nearly
zero. -/
def dragChangeRule : Rule Snapshot := fun prev curr =>
  let delta := curr.bstar - prev.bstar
  let prevNearZero := prev.bstar.fabs.lt kBstarNearZeroThreshold
  let percentChange := if prevNearZero then none else some (delta / prev.bstar)
  let fired := match percentChange with
    | none => kBstarAbsoluteDeltaThreshold.lt delta.fabs
    | some p => kBstarPercentChangeThreshold.lt p.fabs
  if !fired then none
  else some ⟨"drag_change", .obj
    [("prev_bstar", .num prev.bstar),
     ("curr_bstar", .num curr.bstar),
     ("delta", .num delta),
     ("used_absolute_fallback", .bool prevNearZero),
     ("percent_change", percentChange.elim .null .num),
     ("prev_epoch", .str prev.epoch),
     ("curr_epoch", .str curr.epoch)]⟩

/-- `make_default_rule_registry`. -/
def makeDefaultRuleRegistry : RuleRegistry Snapshot :=
  [maneuverDetectedRule, raanShiftRule, eccentricityChangeRule, dragChangeRule]

/-- The rules read six fields of the previous snapshot. -/
theorem evaluateAll_congr_prev {p p' : Snapshot} (hi : p.inclination = p'.inclination)
    (ha : p.semimajorAxis = p'.semimajorAxis) (hr : p.raOfAscNode = p'.raOfAscNode)
    (he : p.eccentricity = p'.eccentricity) (hb : p.bstar = p'.bstar) (ht : p.epoch = p'.epoch)
    (curr : Snapshot) :
    makeDefaultRuleRegistry.evaluateAll p curr = makeDefaultRuleRegistry.evaluateAll p' curr := by
  simp only [makeDefaultRuleRegistry, RuleRegistry.evaluateAll, List.filterMap_cons,
    List.filterMap_nil, maneuverDetectedRule, raanShiftRule, eccentricityChangeRule, deltaRule,
    dragChangeRule, hi, ha, hr, he, hb, ht]

/-! ## The codes of the events -/

/-- A maneuver is reported under its own code. -/
theorem maneuverDetectedRule_reports : maneuverDetectedRule.Reports "maneuver_detected" := by
  intro prev curr event h
  unfold maneuverDetectedRule at h
  dsimp only at h
  split at h <;> cases h
  rfl

/-- A difference is reported under the code of its rule. -/
theorem deltaRule_reports (field : Snapshot → Double) (threshold : Double)
    (code deltaKey thresholdKey : String) :
    (deltaRule field threshold code deltaKey thresholdKey).Reports code := by
  intro prev curr event h
  unfold deltaRule at h
  dsimp only at h
  split at h <;> cases h
  rfl

/-- A shift of the node is reported under its code. -/
theorem raanShiftRule_reports : raanShiftRule.Reports "raan_shift" :=
  deltaRule_reports _ _ _ _ _

/-- A change of the eccentricity is reported under its code. -/
theorem eccentricityChangeRule_reports : eccentricityChangeRule.Reports "eccentricity_change" :=
  deltaRule_reports _ _ _ _ _

/-- A change of the drag is reported under its code. -/
theorem dragChangeRule_reports : dragChangeRule.Reports "drag_change" := by
  intro prev curr event h
  simp only [dragChangeRule, Option.ite_none_left_eq_some, Option.some.injEq] at h
  obtain ⟨-, rfl⟩ := h
  rfl

/-- The codes of the default registry. -/
def snapshotEventCodes : List String :=
  ["maneuver_detected", "raan_shift", "eccentricity_change", "drag_change"]

/-- What the registry reports has one of the codes of its rules. -/
theorem mem_snapshotEvents {prev curr : Snapshot} {event : DetectedEvent}
    (h : event ∈ makeDefaultRuleRegistry.evaluateAll prev curr) :
    event.eventTypeCode ∈ snapshotEventCodes := by
  obtain ⟨rule, hr, he⟩ := RuleRegistry.mem_evaluateAll.1 h
  simp only [makeDefaultRuleRegistry, List.mem_cons, List.not_mem_nil, or_false] at hr
  rcases hr with rfl | rfl | rfl | rfl
  · rw [maneuverDetectedRule_reports he]
    simp [snapshotEventCodes]
  · rw [raanShiftRule_reports he]
    simp [snapshotEventCodes]
  · rw [eccentricityChangeRule_reports he]
    simp [snapshotEventCodes]
  · rw [dragChangeRule_reports he]
    simp [snapshotEventCodes]

/-- No two events of a pair have one code. -/
theorem snapshotCodes_nodup (prev curr : Snapshot) :
    (makeDefaultRuleRegistry.codes prev curr).Nodup :=
  (RuleRegistry.codes_sublist (.cons maneuverDetectedRule_reports (.cons raanShiftRule_reports
    (.cons eccentricityChangeRule_reports (.cons dragChangeRule_reports .nil)))) prev curr).nodup
      (by decide)

/-! ## When the rules fire -/

/-- `maneuverDetectedRule` fires. -/
def maneuverFires (prev curr : Snapshot) : Bool :=
  kInclinationDeltaThresholdDeg.lt (curr.inclination - prev.inclination).fabs ||
    kSemimajorAxisDeltaThresholdKm.lt (curr.semimajorAxis - prev.semimajorAxis).fabs

/-- `deltaRule` fires on a difference. -/
def deltaFires (threshold delta : Double) : Bool := !delta.fabs.le threshold

/-- `dragChangeRule` fires. -/
def dragFires (prev curr : Double) : Bool :=
  if prev.fabs.lt kBstarNearZeroThreshold then kBstarAbsoluteDeltaThreshold.lt (curr - prev).fabs
  else kBstarPercentChangeThreshold.lt ((curr - prev) / prev).fabs

/-- The rule fires exactly when one of its two differences exceeds its threshold. -/
theorem maneuverDetectedRule_isSome (prev curr : Snapshot) :
    (maneuverDetectedRule prev curr).isSome = maneuverFires prev curr := by
  unfold maneuverDetectedRule maneuverFires
  dsimp only
  split
  · next h => simpa using h
  · next h =>
    simp only [Bool.and_eq_true, Bool.not_eq_true', not_and, Bool.not_eq_false] at h
    simpa [or_iff_not_imp_left] using h

/-- The rule fires exactly when its difference does not lie within its threshold. -/
theorem deltaRule_isSome (field : Snapshot → Double) (threshold : Double)
    (code deltaKey thresholdKey : String) (prev curr : Snapshot) :
    (deltaRule field threshold code deltaKey thresholdKey prev curr).isSome =
      deltaFires threshold (field curr - field prev) := by
  unfold deltaRule deltaFires
  dsimp only
  split
  · next h => simp [h]
  · next h => simpa using h

/-- The rule fires exactly when the drag changes by more than its threshold. -/
theorem dragChangeRule_isSome (prev curr : Snapshot) :
    (dragChangeRule prev curr).isSome = dragFires prev.bstar curr.bstar := by
  unfold dragChangeRule dragFires
  dsimp only
  cases prev.bstar.fabs.lt kBstarNearZeroThreshold with
  | true => cases h : kBstarAbsoluteDeltaThreshold.lt (curr.bstar - prev.bstar).fabs <;> simp
  | false =>
    cases h : kBstarPercentChangeThreshold.lt ((curr.bstar - prev.bstar) / prev.bstar).fabs <;>
      simp [h]

/-- Two pairs fire the same codes exactly when each rule fires on both or on neither. -/
theorem codes_eq_iff {prev curr prev' curr' : Snapshot} :
    makeDefaultRuleRegistry.codes prev curr = makeDefaultRuleRegistry.codes prev' curr' ↔
      maneuverFires prev curr = maneuverFires prev' curr' ∧
      deltaFires kRaanDeltaThresholdDeg (curr.raOfAscNode - prev.raOfAscNode) =
        deltaFires kRaanDeltaThresholdDeg (curr'.raOfAscNode - prev'.raOfAscNode) ∧
      deltaFires kEccentricityDeltaThreshold (curr.eccentricity - prev.eccentricity) =
        deltaFires kEccentricityDeltaThreshold (curr'.eccentricity - prev'.eccentricity) ∧
      dragFires prev.bstar curr.bstar = dragFires prev'.bstar curr'.bstar := by
  -- the four codes are distinct, so that the list tells which rules fired
  have hcodes : ∀ prev curr : Snapshot, makeDefaultRuleRegistry.codes prev curr =
      (if maneuverFires prev curr then ["maneuver_detected"] else []) ++
      ((if deltaFires kRaanDeltaThresholdDeg (curr.raOfAscNode - prev.raOfAscNode) then
        ["raan_shift"] else []) ++
      ((if deltaFires kEccentricityDeltaThreshold (curr.eccentricity - prev.eccentricity) then
        ["eccentricity_change"] else []) ++
      ((if dragFires prev.bstar curr.bstar then ["drag_change"] else []) ++ []))) := by
    intro prev curr
    rw [makeDefaultRuleRegistry, RuleRegistry.codes_cons maneuverDetectedRule_reports,
      RuleRegistry.codes_cons raanShiftRule_reports,
      RuleRegistry.codes_cons eccentricityChangeRule_reports,
      RuleRegistry.codes_cons dragChangeRule_reports, maneuverDetectedRule_isSome,
      raanShiftRule, deltaRule_isSome, eccentricityChangeRule, deltaRule_isSome,
      dragChangeRule_isSome]
    rfl
  have hinj : ∀ a b c d a' b' c' d' : Bool,
      (if a then ["maneuver_detected"] else []) ++ ((if b then ["raan_shift"] else []) ++
        ((if c then ["eccentricity_change"] else []) ++
          ((if d then ["drag_change"] else []) ++ []))) =
      (if a' then ["maneuver_detected"] else []) ++ ((if b' then ["raan_shift"] else []) ++
        ((if c' then ["eccentricity_change"] else []) ++
          ((if d' then ["drag_change"] else []) ++ []))) ↔
      a = a' ∧ b = b' ∧ c = c' ∧ d = d' := by
    decide
  rw [hcodes, hcodes]
  exact hinj _ _ _ _ _ _ _ _

end VitaleBackend
