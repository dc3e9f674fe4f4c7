import VitaleBackend.Lib.Circle
import VitaleBackend.RuleEngine.SnapshotRules

/-!
# The right ascension of the ascending node as an angle

`ra_of_asc_node` is an angle in degrees, of `[0, 360)`, and a node that drifts through 360 goes on
at 0. `raanShiftRule` compares the two numbers. `AnglesCompared` is what comparing the two angles
would give, and `anglesCompared_iff` says for which pairs that is what the rule does: those on the
same side of the seam.
-/

namespace VitaleBackend

open Circle

/-- An angle in degrees. -/
abbrev InTurn (q : ℚ) : Prop := q ∈ Set.Ico (0 : ℚ) 360

/-- The angle of a rotation by an amount. -/
noncomputable def rotateDeg (amount q : ℚ) : ℚ := rotate (p := 360) (by norm_num) amount q

/-- The registry reports a `raan_shift`. -/
def RaanFires (prev curr : Snapshot) : Prop :=
  ∃ event ∈ makeDefaultRuleRegistry.evaluateAll prev curr, event.eventTypeCode = "raan_shift"

/-- The events of the registry with the code of `raanShiftRule` are those of that rule. -/
theorem mem_evaluateAll_raan {prev curr : Snapshot} {event : DetectedEvent} :
    event ∈ makeDefaultRuleRegistry.evaluateAll prev curr ∧ event.eventTypeCode = "raan_shift" ↔
      raanShiftRule prev curr = some event := by
  have hfilter : (makeDefaultRuleRegistry.evaluateAll prev curr).filter
      (·.eventTypeCode = "raan_shift") = (raanShiftRule prev curr).toList := by
    rw [makeDefaultRuleRegistry,
      RuleRegistry.filter_evaluateAll_cons maneuverDetectedRule_reports, if_neg (by decide),
      RuleRegistry.filter_evaluateAll_cons raanShiftRule_reports, if_pos rfl,
      RuleRegistry.filter_evaluateAll_cons eccentricityChangeRule_reports, if_neg (by decide),
      RuleRegistry.filter_evaluateAll_cons dragChangeRule_reports, if_neg (by decide),
      RuleRegistry.evaluateAll_nil, List.filter_nil]
    simp only [List.nil_append, List.append_nil]
  rw [← Option.mem_toList, ← hfilter, List.mem_filter, decide_eq_true_eq]

section
variable {prev curr : Snapshot} {a b : ℚ}

/-- What the rule reports of two finite values. -/
theorem raanShiftRule_fin (ha : prev.raOfAscNode = .fin a) (hb : curr.raOfAscNode = .fin b) :
    raanShiftRule prev curr = if |b - a| ≤ 0.01 then none else some ⟨"raan_shift", .obj
      [("ra_of_asc_node_delta_deg", .num (.fin |b - a|)),
       ("threshold_deg", .num kRaanDeltaThresholdDeg),
       ("prev_epoch", .str prev.epoch),
       ("curr_epoch", .str curr.epoch)]⟩ := by
  have hle : (Double.fin |b - a|).le kRaanDeltaThresholdDeg = decide (|b - a| ≤ 0.01) := rfl
  unfold raanShiftRule deltaRule
  simp only [ha, hb, Double.fin_sub_fin, Double.fabs_fin, hle, decide_eq_true_eq]

/-- The registry reports a shift when the two numbers differ by more than the threshold. -/
theorem raanFires_iff (ha : prev.raOfAscNode = .fin a) (hb : curr.raOfAscNode = .fin b) :
    RaanFires prev curr ↔ 0.01 < |b - a| := by
  unfold RaanFires
  simp only [mem_evaluateAll_raan, raanShiftRule_fin ha hb]
  split
  · next h => exact iff_of_false nofun (not_lt.2 h)
  · next h => exact iff_of_true ⟨_, rfl⟩ (not_le.1 h)

/-- The difference that is reported is that of the two numbers. -/
theorem raanDelta_reported (ha : prev.raOfAscNode = .fin a) (hb : curr.raOfAscNode = .fin b)
    {event : DetectedEvent} (he : event ∈ makeDefaultRuleRegistry.evaluateAll prev curr)
    (hcode : event.eventTypeCode = "raan_shift") :
    event.detailJson.at? "ra_of_asc_node_delta_deg" = some (.num (.fin |b - a|)) := by
  have hr := mem_evaluateAll_raan.1 ⟨he, hcode⟩
  rw [raanShiftRule_fin ha hb] at hr
  split at hr <;> cases hr
  rfl

end

/-- What comparing the two angles means: the registry reports a shift when their distance along the
circle exceeds the threshold, it reports that distance, and a rotation of both angles does not
change whether it fires. -/
structure AnglesCompared (prev curr : Snapshot) (a b amount : ℚ) : Prop where
  fires : RaanFires prev curr ↔ 0.01 < circDist 360 a b
  delta : ∀ event ∈ makeDefaultRuleRegistry.evaluateAll prev curr,
    event.eventTypeCode = "raan_shift" →
      event.detailJson.at? "ra_of_asc_node_delta_deg" = some (.num (.fin (circDist 360 a b)))
  rotation : RaanFires prev curr ↔
    RaanFires { prev with raOfAscNode := .fin (rotateDeg amount a) }
      { curr with raOfAscNode := .fin (rotateDeg amount b) }

section
variable {prev curr : Snapshot} {a b : ℚ} (ha : prev.raOfAscNode = .fin a)
  (hb : curr.raOfAscNode = .fin b)
include ha hb

/-- On one side of the seam the rule compares the angles. -/
theorem raanFires_iff_circDist (hside : |b - a| ≤ 180) :
    RaanFires prev curr ↔ 0.01 < circDist 360 a b := by
  rw [raanFires_iff ha hb, circDist_eq_abs_iff.2 (by linarith only [hside])]

/-- Across the seam it reports a shift, of the longer arc. -/
theorem not_delta_of_seam (hside : 180 < |b - a|) :
    ∃ event ∈ makeDefaultRuleRegistry.evaluateAll prev curr, event.eventTypeCode = "raan_shift" ∧
      event.detailJson.at? "ra_of_asc_node_delta_deg" ≠ some (.num (.fin (circDist 360 a b))) := by
  obtain ⟨event, he, hcode⟩ := (raanFires_iff ha hb).2 (lt_trans (by norm_num) hside)
  refine ⟨event, he, hcode, fun heq => ?_⟩
  rw [raanDelta_reported ha hb he hcode, circDist_of_lt (by linarith only [hside])] at heq
  simp only [Option.some.injEq, Json.num.injEq, Double.fin.injEq] at heq
  linarith only [heq, hside]

/-- The rule compares two angles exactly when they lie on one side of the seam, and so do the
rotated ones unless the angles are further apart than the threshold. -/
theorem anglesCompared_iff (hia : InTurn a) (hib : InTurn b) (amount : ℚ) :
    AnglesCompared prev curr a b amount ↔ |b - a| ≤ 180 ∧
      (0.01 < circDist 360 a b ∨ |rotateDeg amount b - rotateDeg amount a| ≤ 180) := by
  have hrot : circDist 360 (rotateDeg amount a) (rotateDeg amount b) = circDist 360 a b :=
    circDist_rotate _ hia hib amount
  have hrotated : RaanFires { prev with raOfAscNode := .fin (rotateDeg amount a) }
      { curr with raOfAscNode := .fin (rotateDeg amount b) } ↔
      0.01 < |rotateDeg amount b - rotateDeg amount a| := raanFires_iff rfl rfl
  constructor
  · intro h
    have hside : |b - a| ≤ 180 := by
      by_contra hseam
      obtain ⟨event, he, hcode, hne⟩ := not_delta_of_seam ha hb (not_le.1 hseam)
      exact hne (h.delta event he hcode)
    refine ⟨hside, or_iff_not_imp_left.2 fun hnear => ?_⟩
    rw [← h.fires, h.rotation, hrotated, not_lt] at hnear
    exact hnear.trans (by norm_num)
  · rintro ⟨hside, hor⟩
    have hfires := raanFires_iff_circDist ha hb hside
    refine ⟨hfires, fun event he hcode => ?_, ?_⟩
    · rw [raanDelta_reported ha hb he hcode, circDist_eq_abs_iff.2 (by linarith only [hside])]
    · rw [hfires, hrotated]
      rcases hor with hfar | hside'
      · -- both arcs exceed the threshold
        exact iff_of_true hfar ((hrot ▸ hfar).trans_le (min_le_left _ _))
      · rw [← hrot, circDist_eq_abs_iff.2 (by linarith only [hside'])]

end

/-- Every two angles are compared as angles. -/
def RaanComparedAsAngle : Prop := ∀ (prev curr : Snapshot) (a b amount : ℚ),
  prev.raOfAscNode = .fin a → curr.raOfAscNode = .fin b → InTurn a → InTurn b →
    AnglesCompared prev curr a b amount

/-- A node that goes from 359.999 to 0.001 has moved by 0.002 degrees. -/
theorem not_raanComparedAsAngle : ¬ RaanComparedAsAngle := by
  intro h
  have hangles := h { raOfAscNode := .fin 359.999 } { raOfAscNode := .fin 0.001 } 359.999 0.001 0
    rfl rfl (by norm_num) (by norm_num)
  have hfires := hangles.fires.1 ((raanFires_iff rfl rfl).2 (by norm_num [abs_of_neg]))
  norm_num [circDist, abs_of_neg] at hfires

/-- The same move far from the seam. -/
theorem anglesCompared_inside :
    AnglesCompared { raOfAscNode := .fin 120 } { raOfAscNode := .fin 120.02 } 120 120.02 0 :=
  (anglesCompared_iff rfl rfl (by norm_num) (by norm_num) 0).2
    ⟨by norm_num [abs_of_pos], .inl (by norm_num [circDist, abs_of_pos])⟩

end VitaleBackend
