import Mathlib.Tactic.Linarith
import VitaleBackend.Poller.Content
import VitaleBackend.Poller.Redelivery

/-!
# Missing GP data

A numeric field that a GP entry lacks is stored as zero, and the rules take the zero for a value:
they fire on the record that lacks it and again on the next one that has it, unless the values
around it are themselves near zero. `missing_iff` is the exact condition, with the thresholds of the
four rules.
-/

namespace VitaleBackend

open Process Relational

/-! ## A zero in the place of a value -/

/-- A difference with zero fires as no difference would, exactly when the value is no number or
within the threshold. -/
theorem deltaFires_eq_iff {x delta : Double} {t : ℚ} (ht : 0 ≤ t) (h : delta.fabs = x.fabs) :
    deltaFires (.fin t) delta = deltaFires (.fin t) (x - x) ↔
      (x.isFinite = true → x.fabs.le (.fin t) = true) := by
  unfold deltaFires
  rw [h, Double.sub_self_eq]
  cases x with
  | fin q => simp [Double.isFinite, ht]
  | inf s => simp [Double.isFinite, Double.fabs, Double.le]
  | nan => simp [Double.isFinite, Double.fabs, Double.le]

/-- No difference exceeds a threshold. -/
theorem lt_sub_self {t : ℚ} (ht : 0 ≤ t) (x : Double) : (Double.fin t).lt (x - x).fabs = false := by
  rw [Double.sub_self_eq]
  cases x with
  | fin q => simp [Double.isFinite, ht]
  | inf s => rfl
  | nan => rfl

/-- The drag rule does not fire on one value. -/
theorem dragFires_self (x : Double) : dragFires x x = false := by
  have habs : kBstarAbsoluteDeltaThreshold = .fin (1 / 10 ^ 4) := by decide +kernel
  have hpercent : kBstarPercentChangeThreshold = .fin (1 / 2) := by decide +kernel
  unfold dragFires
  rw [habs, hpercent, Double.sub_self_eq]
  cases x with
  | fin q =>
    by_cases hq : q = 0
    · subst hq
      decide +kernel
    · have hdiv : Double.fin 0 / Double.fin q = .fin 0 := by rw [Double.fin_div_fin _ hq, zero_div]
      simp [Double.isFinite, hdiv]
  | inf s => cases s <;> rfl
  | nan => rfl

/-- The drag rule takes the way to zero for a change of 100 %, unless it starts nearly at zero. -/
theorem dragFires_zero_right (x : Double) : dragFires x 0 = false ↔
    (x.isFinite = true → x.fabs.lt kBstarNearZeroThreshold = true) := by
  have habs : kBstarAbsoluteDeltaThreshold = .fin (1 / 10 ^ 4) := by decide +kernel
  have hpercent : kBstarPercentChangeThreshold = .fin (1 / 2) := by decide +kernel
  have hnear : kBstarNearZeroThreshold = .fin (1 / 10 ^ 6) := by decide +kernel
  unfold dragFires
  rw [habs, hpercent, hnear, Double.fabs_zero_sub]
  cases x with
  | fin q =>
    rw [Double.fabs_fin, Double.lt_fin, Double.lt_fin]
    by_cases hq : |q| < 1 / 10 ^ 6
    · have hle : ¬ (1 / 10 ^ 4 < |q|) := by
        norm_num at hq ⊢
        linarith
      rw [if_pos (decide_eq_true hq), decide_eq_false hle, decide_eq_true hq]
      simp
    · have hne : q ≠ 0 := by
        rintro rfl
        norm_num at hq
      have hdiv : ((0 : Double) - Double.fin q) / Double.fin q = .fin (-1) := by
        show (Double.fin 0 - Double.fin q) / _ = _
        rw [Double.fin_sub_fin, Double.fin_div_fin _ hne, zero_sub, neg_div, div_self hne]
      have hfires : (Double.fin (1 / 2)).lt (Double.fin (-1)).fabs = true := by decide +kernel
      rw [if_neg (by simpa using hq), hdiv, decide_eq_false hq, hfires]
      simp [Double.isFinite]
  | inf s => cases s <;> simp [Double.isFinite] <;> rfl
  | nan =>
    simp only [Double.isFinite]
    decide

/-- On the way from zero the drag rule compares absolutely. -/
theorem dragFires_zero_left (x : Double) :
    dragFires 0 x = kBstarAbsoluteDeltaThreshold.lt x.fabs := by
  have hzero : (0 : Double).fabs.lt kBstarNearZeroThreshold = true := by decide +kernel
  unfold dragFires
  rw [if_pos hzero, Double.fabs_sub_zero]

/-! ## Fields that an entry lacks -/

/-- The entry has no such field, or `null` there. -/
def Json.lacks (j : Json) (key : String) : Bool := (j.field? key).isNone

/-- The element set with the numeric fields that its entry lacks taken from another one. -/
def Snapshot.fill (s : Snapshot) (j : Json) (other : Snapshot) : Snapshot :=
  { s with
    meanMotion := if j.lacks "MEAN_MOTION" then other.meanMotion else s.meanMotion
    eccentricity := if j.lacks "ECCENTRICITY" then other.eccentricity else s.eccentricity
    inclination := if j.lacks "INCLINATION" then other.inclination else s.inclination
    raOfAscNode := if j.lacks "RA_OF_ASC_NODE" then other.raOfAscNode else s.raOfAscNode
    argOfPericenter :=
      if j.lacks "ARG_OF_PERICENTER" then other.argOfPericenter else s.argOfPericenter
    meanAnomaly := if j.lacks "MEAN_ANOMALY" then other.meanAnomaly else s.meanAnomaly
    semimajorAxis := if j.lacks "SEMIMAJOR_AXIS" then other.semimajorAxis else s.semimajorAxis
    period := if j.lacks "PERIOD" then other.period else s.period
    apoapsis := if j.lacks "APOAPSIS" then other.apoapsis else s.apoapsis
    periapsis := if j.lacks "PERIAPSIS" then other.periapsis else s.periapsis
    bstar := if j.lacks "BSTAR" then other.bstar else s.bstar
    meanMotionDot := if j.lacks "MEAN_MOTION_DOT" then other.meanMotionDot else s.meanMotionDot
    meanMotionDdot := if j.lacks "MEAN_MOTION_DDOT" then other.meanMotionDdot else s.meanMotionDdot
    elementSetNo := if j.lacks "ELEMENT_SET_NO" then other.elementSetNo else s.elementSetNo
    revAtEpoch := if j.lacks "REV_AT_EPOCH" then other.revAtEpoch else s.revAtEpoch }

/-- The fields that the rules read are zero where the entry lacks them. -/
structure ZeroWhereLacking (j : Json) (s : Snapshot) : Prop where
  inclination : j.lacks "INCLINATION" → s.inclination = 0
  semimajorAxis : j.lacks "SEMIMAJOR_AXIS" → s.semimajorAxis = 0
  raOfAscNode : j.lacks "RA_OF_ASC_NODE" → s.raOfAscNode = 0
  eccentricity : j.lacks "ECCENTRICITY" → s.eccentricity = 0
  bstar : j.lacks "BSTAR" → s.bstar = 0

/-- A number that the entry lacks is zero in the record. -/
theorem doubleField_lacks {j : Json} {key : String} {x : Double} (h : doubleField j key = .ok x)
    (hl : j.lacks key) : x = 0 := by
  rw [doubleField, numField_absent stod (Option.isNone_iff_eq_none.1 hl)] at h
  exact (Except.ok.inj h).symm

/-- The parser reads a field that is lacking as zero. -/
theorem parseOne_zeroWhereLacking {j : Json} {r : GpRecord} (h : GpRecord.parseOne j = .ok r) :
    ZeroWhereLacking j r.snapshot := by
  have hread := GpRecord.parseOne_ok h
  exact ⟨doubleField_lacks hread.inclination, doubleField_lacks hread.semimajorAxis,
    doubleField_lacks hread.raOfAscNode, doubleField_lacks hread.eccentricity,
    doubleField_lacks hread.bstar⟩

/-- The columns store such a zero, and it is read back. -/
theorem ZeroWhereLacking.stored {X : Externals} {j : Json} {s : Snapshot} {row : SnapshotRow}
    (h : ZeroWhereLacking j s) (hrow : SnapshotRow.ofSnapshot X 0 0 s = .ok row)
    (decayDate : Option Int) : ZeroWhereLacking j (row.toSnapshot X decayDate) := by
  have hzero : ∀ {p q : Nat} {x y : Double}, numericColumn p q x = .ok y → x = 0 → y = 0 := by
    rintro p q x y hxy rfl
    rw [numericColumn_zero] at hxy
    exact (Except.ok.inj hxy).symm
  obtain ⟨-, hrow⟩ := SnapshotRow.ofSnapshot_converted hrow
  exact ⟨fun hl => hzero hrow.inclination (h.inclination hl),
    fun hl => hrow.semimajorAxis.trans (h.semimajorAxis hl),
    fun hl => hzero hrow.raOfAscNode (h.raOfAscNode hl),
    fun hl => hzero hrow.eccentricity (h.eccentricity hl),
    fun hl => hzero hrow.bstar (h.bstar hl)⟩


/-! ## When missing fields go unnoticed -/

/-- The maneuver rule does not notice what the entry lacks of its two fields: one that is there
moved past its threshold anyway, or the other side `x` has zeros there, up to the thresholds. -/
def ManeuverUnnoticed (j : Json) (x prev curr : Snapshot) : Prop :=
  (j.lacks "INCLINATION" = false ∧
    kInclinationDeltaThresholdDeg.lt (curr.inclination - prev.inclination).fabs = true) ∨
  (j.lacks "SEMIMAJOR_AXIS" = false ∧
    kSemimajorAxisDeltaThresholdKm.lt (curr.semimajorAxis - prev.semimajorAxis).fabs = true) ∨
  ((j.lacks "INCLINATION" → kInclinationDeltaThresholdDeg.lt x.inclination.fabs = false) ∧
    (j.lacks "SEMIMAJOR_AXIS" → kSemimajorAxisDeltaThresholdKm.lt x.semimajorAxis.fabs = false))

/-- The other two threshold rules do not notice: the other side has no number there, or one that is
zero up to the threshold. -/
structure DeltasUnnoticed (j : Json) (x : Snapshot) : Prop where
  raOfAscNode : j.lacks "RA_OF_ASC_NODE" → x.raOfAscNode.isFinite →
    x.raOfAscNode.fabs.le kRaanDeltaThresholdDeg
  eccentricity : j.lacks "ECCENTRICITY" → x.eccentricity.isFinite →
    x.eccentricity.fabs.le kEccentricityDeltaThreshold

/-- What a stored snapshot must be for a record after it to lack fields unnoticed. -/
structure UnnoticedAfter (j : Json) (prev curr : Snapshot) : Prop where
  maneuver : ManeuverUnnoticed j prev prev curr
  deltas : DeltasUnnoticed j prev
  bstar : j.lacks "BSTAR" → prev.bstar.isFinite → prev.bstar.fabs.lt kBstarNearZeroThreshold

/-- What the next record must be for the one before it to have lacked fields unnoticed. -/
structure UnnoticedBefore (j : Json) (prev next : Snapshot) : Prop where
  maneuver : ManeuverUnnoticed j next prev next
  deltas : DeltasUnnoticed j next
  bstar : j.lacks "BSTAR" → kBstarAbsoluteDeltaThreshold.lt next.bstar.fabs = false

/-- A difference in a field and the same with the field filled in: where the entry lacks the field,
the former is one of `x` to zero, and the latter one of `x` to itself. -/
structure Zeroed (j : Json) (key : String) (x delta delta' : Double) : Prop where
  zero : j.lacks key → delta.fabs = x.fabs
  filled : delta' = if j.lacks key then x - x else delta

section
variable {j : Json} {key : String} {x y delta delta' : Double} {t : ℚ}

/-- The record lacks the field that its predecessor has. -/
theorem Zeroed.curr (h : j.lacks key → y = 0) :
    Zeroed j key x (y - x) ((if j.lacks key then x else y) - x) := by
  refine ⟨fun hl => ?_, ?_⟩
  · rw [h hl, Double.fabs_zero_sub]
  · split <;> rfl

/-- The predecessor lacks the field that the record has. -/
theorem Zeroed.prev (h : j.lacks key → y = 0) :
    Zeroed j key x (x - y) (x - if j.lacks key then x else y) := by
  refine ⟨fun hl => ?_, ?_⟩
  · rw [h hl, Double.fabs_sub_zero]
  · split <;> rfl

/-- A field that is lacking does not cross a threshold once it is filled in. -/
theorem Zeroed.lt (h : Zeroed j key x delta delta') (ht : 0 ≤ t) : (Double.fin t).lt delta'.fabs =
    if j.lacks key then false else (Double.fin t).lt delta.fabs := by
  rw [h.filled]
  split
  · exact lt_sub_self ht x
  · rfl

/-- A `deltaRule` does not notice that the field is lacking, exactly when `x` is near zero. -/
theorem Zeroed.deltaFires_iff (h : Zeroed j key x delta delta') (ht : 0 ≤ t) :
    deltaFires (.fin t) delta = deltaFires (.fin t) delta' ↔
      (j.lacks key → x.isFinite → x.fabs.le (.fin t)) := by
  rw [h.filled]
  cases hl : j.lacks key with
  | false => simp
  | true => simpa using deltaFires_eq_iff ht (h.zero hl)

end

section
variable {j : Json} {x prev curr prev' curr' : Snapshot}

/-- The maneuver rule does not notice that fields are lacking, exactly under `ManeuverUnnoticed`. -/
theorem maneuverFires_eq_iff
    (hi : Zeroed j "INCLINATION" x.inclination (curr.inclination - prev.inclination)
      (curr'.inclination - prev'.inclination))
    (ha : Zeroed j "SEMIMAJOR_AXIS" x.semimajorAxis (curr.semimajorAxis - prev.semimajorAxis)
      (curr'.semimajorAxis - prev'.semimajorAxis)) :
    maneuverFires prev curr = maneuverFires prev' curr' ↔ ManeuverUnnoticed j x prev curr := by
  have hdeg : kInclinationDeltaThresholdDeg = .fin (1 / 100) := by decide +kernel
  have hkm : kSemimajorAxisDeltaThresholdKm = .fin 1 := by decide +kernel
  have hbool : ∀ li la a b xa xb : Bool, (li = true → a = xa) → (la = true → b = xb) →
      ((a || b) = ((if li then false else a) || (if la then false else b)) ↔
        (li = false ∧ a = true) ∨ (la = false ∧ b = true) ∨
          ((li = true → xa = false) ∧ (la = true → xb = false))) := by
    decide
  unfold maneuverFires ManeuverUnnoticed
  rw [hdeg, hkm, hi.lt (by norm_num), ha.lt (by norm_num)]
  exact hbool _ _ _ _ _ _ (fun hl => by rw [hi.zero hl]) fun hl => by rw [ha.zero hl]

/-- What is recorded does not change when the fields that are lacking are filled in, exactly when
none of the rules notices. -/
theorem codes_unnoticed_iff {B : Prop}
    (hi : Zeroed j "INCLINATION" x.inclination (curr.inclination - prev.inclination)
      (curr'.inclination - prev'.inclination))
    (ha : Zeroed j "SEMIMAJOR_AXIS" x.semimajorAxis (curr.semimajorAxis - prev.semimajorAxis)
      (curr'.semimajorAxis - prev'.semimajorAxis))
    (hr : Zeroed j "RA_OF_ASC_NODE" x.raOfAscNode (curr.raOfAscNode - prev.raOfAscNode)
      (curr'.raOfAscNode - prev'.raOfAscNode))
    (he : Zeroed j "ECCENTRICITY" x.eccentricity (curr.eccentricity - prev.eccentricity)
      (curr'.eccentricity - prev'.eccentricity))
    (hb : dragFires prev.bstar curr.bstar = dragFires prev'.bstar curr'.bstar ↔ B) :
    makeDefaultRuleRegistry.codes prev curr = makeDefaultRuleRegistry.codes prev' curr' ↔
      ManeuverUnnoticed j x prev curr ∧ DeltasUnnoticed j x ∧ B := by
  have hraan : kRaanDeltaThresholdDeg = .fin (1 / 100) := by decide +kernel
  have hecc : kEccentricityDeltaThreshold = .fin (1 / 1000) := by decide +kernel
  have hdeltas : DeltasUnnoticed j x ↔
      (j.lacks "RA_OF_ASC_NODE" → x.raOfAscNode.isFinite →
        x.raOfAscNode.fabs.le kRaanDeltaThresholdDeg) ∧
      (j.lacks "ECCENTRICITY" → x.eccentricity.isFinite →
        x.eccentricity.fabs.le kEccentricityDeltaThreshold) :=
    ⟨fun h => ⟨h.raOfAscNode, h.eccentricity⟩, fun h => ⟨h.1, h.2⟩⟩
  rw [codes_eq_iff, maneuverFires_eq_iff hi ha, hdeltas, hraan, hecc,
    hr.deltaFires_iff (by norm_num),
    he.deltaFires_iff (by norm_num), hb, and_assoc]

end

section
variable {j : Json} {prev curr : Snapshot}

/-- A record that lacks fields, against its predecessor. -/
theorem codes_fill_curr_iff (h : ZeroWhereLacking j curr) :
    makeDefaultRuleRegistry.codes prev curr =
    makeDefaultRuleRegistry.codes prev (curr.fill j prev) ↔
      UnnoticedAfter j prev curr := by
  have hb : dragFires prev.bstar curr.bstar = dragFires prev.bstar (curr.fill j prev).bstar ↔
      (j.lacks "BSTAR" → prev.bstar.isFinite → prev.bstar.fabs.lt kBstarNearZeroThreshold) := by
    show _ = dragFires prev.bstar (if j.lacks "BSTAR" then prev.bstar else curr.bstar) ↔ _
    cases hl : j.lacks "BSTAR" with
    | false => simp
    | true =>
      rw [h.bstar hl, if_pos rfl, dragFires_self, dragFires_zero_right]
      simp
  refine (codes_unnoticed_iff (.curr h.inclination) (.curr h.semimajorAxis) (.curr h.raOfAscNode)
    (.curr h.eccentricity) hb).trans ?_
  exact ⟨fun ⟨hm, hd, hb⟩ => ⟨hm, hd, hb⟩, fun h => ⟨h.maneuver, h.deltas, h.bstar⟩⟩

/-- A record after one that lacks fields. -/
theorem codes_fill_prev_iff (h : ZeroWhereLacking j prev) :
    makeDefaultRuleRegistry.codes prev curr =
    makeDefaultRuleRegistry.codes (prev.fill j curr) curr ↔
      UnnoticedBefore j prev curr := by
  have hb : dragFires prev.bstar curr.bstar = dragFires (prev.fill j curr).bstar curr.bstar ↔
      (j.lacks "BSTAR" → kBstarAbsoluteDeltaThreshold.lt curr.bstar.fabs = false) := by
    show _ = dragFires (if j.lacks "BSTAR" then curr.bstar else prev.bstar) curr.bstar ↔ _
    cases hl : j.lacks "BSTAR" with
    | false => simp
    | true =>
      rw [h.bstar hl, if_pos rfl, dragFires_self, dragFires_zero_left]
      simp
  refine (codes_unnoticed_iff (.prev h.inclination) (.prev h.semimajorAxis) (.prev h.raOfAscNode)
    (.prev h.eccentricity) hb).trans ?_
  exact ⟨fun ⟨hm, hd, hb⟩ => ⟨hm, hd, hb⟩, fun h => ⟨h.maneuver, h.deltas, h.bstar⟩⟩

end
/-! ## What is recorded for a snapshot -/

namespace GpContent

section
variable {X : Externals} {c : GpContent} {r : GpRecord} {row : SnapshotRow} {g : Int}

/-- The events that led to a snapshot. -/
def eventsFor (c : GpContent) (g : Int) : List EventContent := c.events.filter (·.newGpId = some g)

/-- Events lead to snapshots that are there. -/
def Named (c : GpContent) : Prop :=
  ∀ e ∈ c.events, ∀ g ∈ e.newGpId, g ∈ c.snapshots.map (·.gpId)

/-- The events that are fired for a record lead to its snapshot. -/
theorem mem_fired {e : EventContent} (h : e ∈ c.fired X r) : e.newGpId = some r.snapshot.gpId := by
  unfold fired at h
  split at h
  · cases h
  · obtain ⟨_, -, rfl⟩ := List.mem_map.1 h
    rfl

/-- The `gp_id`s after a record that the tables take. -/
theorem Takes.gpIds (h : c.Takes X r row) :
    (c.store X r).snapshots.map (·.gpId) = c.snapshots.map (·.gpId) ++ [r.snapshot.gpId] := by
  rw [store_of_takes h]
  show (c.snapshots ++ [row]).map _ = _
  rw [List.map_append, List.map_singleton, (SnapshotRow.ofSnapshot_ok h.columns).2.2]

/-- A record that is taken adds the events that are fired for it. -/
theorem Takes.events (h : c.Takes X r row) : (c.store X r).events = c.events ++ c.fired X r := by
  rw [store_of_takes h]
  rfl

/-- A record is one that the tables take, or changes nothing. -/
theorem store_cases (X : Externals) (c : GpContent) (r : GpRecord) :
    (∃ row, c.Takes X r row) ∨ c.store X r = c := by
  by_cases h : ∃ row, c.Takes X r row
  · exact .inl h
  · exact .inr (store_of_not_takes fun row hrow => h ⟨row, hrow⟩)

/-- A record leads its events to a snapshot that is there: its own. -/
theorem store_named (h : c.Named) (r : GpRecord) : (c.store X r).Named := by
  rcases store_cases X c r with ⟨row, ht⟩ | heq
  · intro e he g hg
    rw [ht.gpIds, List.mem_append]
    rw [ht.events, List.mem_append] at he
    rcases he with he | he
    · exact .inl (h e he g hg)
    · rw [mem_fired he, Option.mem_some_iff] at hg
      rw [← hg]
      exact .inr (.head _)
  · rw [heq]
    exact h

/-- So do any number of records. -/
theorem storeAll_named (rs : List GpRecord) {c : GpContent} (h : c.Named) :
    (c.storeAll X rs).Named := by
  induction rs generalizing c with
  | nil => exact h
  | cons r rs ih => exact ih (store_named h r)

/-- The events that lead to a new snapshot are those fired for it. -/
theorem eventsFor_new (h : c.Named) (ht : c.Takes X r row) :
    (c.store X r).eventsFor r.snapshot.gpId = c.fired X r := by
  have hold : c.events.filter (·.newGpId = some r.snapshot.gpId) = [] :=
    List.filter_eq_nil_iff.2 fun e he hg => ht.fresh (h e he _ (of_decide_eq_true hg))
  unfold eventsFor
  rw [ht.events, List.filter_append, hold, List.nil_append]
  exact List.filter_eq_self.2 fun e he => decide_eq_true (mem_fired he)

/-- Later records do not lead to a snapshot that is there. -/
theorem eventsFor_store (hg : g ∈ c.snapshots.map (·.gpId)) :
    (c.store X r).eventsFor g = c.eventsFor g ∧ g ∈ (c.store X r).snapshots.map (·.gpId) := by
  rcases store_cases X c r with ⟨row, ht⟩ | heq
  · have hnew : (c.fired X r).filter (·.newGpId = some g) = [] :=
      List.filter_eq_nil_iff.2 fun e he hgp => by
        have hgp' : e.newGpId = some g := of_decide_eq_true hgp
        rw [mem_fired he, Option.some_inj] at hgp'
        exact ht.fresh (hgp' ▸ hg)
    refine ⟨?_, ?_⟩
    · unfold eventsFor
      rw [ht.events, List.filter_append, hnew, List.append_nil]
    · rw [ht.gpIds]
      exact List.mem_append_left _ hg
  · rw [heq]
    exact ⟨rfl, hg⟩

/-- Records that come later lead to other snapshots. -/
theorem eventsFor_storeAll (rs : List GpRecord) {c : GpContent}
    (hg : g ∈ c.snapshots.map (·.gpId)) : (c.storeAll X rs).eventsFor g = c.eventsFor g := by
  induction rs generalizing c with
  | nil => rfl
  | cons r rs ih =>
    have hstep := @eventsFor_store X c r g hg
    rw [storeAll_cons, ih hstep.2, hstep.1]

end

end GpContent

/-- The events of the tables lead to snapshots of the tables. -/
theorem content_named (db : Database) : db.content.Named := by
  intro e he g hg
  obtain ⟨r, -, rfl⟩ := List.mem_map.1 he
  rw [content_gpIds]
  obtain ⟨id, -, hid⟩ := Option.bind_eq_some_iff.1 (Option.mem_def.1 hg)
  obtain ⟨row, hrow, rfl⟩ := Option.map_eq_some_iff.1 hid
  exact List.mem_map_of_mem (List.mem_of_find?_eq_some hrow)

/-- The codes of the events recorded for a snapshot. -/
def recordedCodes (db : Database) (gpId : Int) : List String :=
  (db.content.eventsFor gpId).map (·.event.eventTypeCode)

/-- In a response none of whose calls fails, an entry becomes a record that is stored, as this row,
over this last snapshot of its object. -/
structure StoredOver (X : Externals) (s : Session) (body : String) (j : Json) (r : GpRecord)
    (prev : Snapshot) (row : SnapshotRow) : Prop where
  calm : Calm s.env
  parsed : GpRecord.parseOne j = .ok r
  turn : ∃ pre post rs rs', visited X body = pre ++ j :: post ∧
    parseEntries GpRecord.parseOne pre = .ok rs ∧ parseEntries GpRecord.parseOne post = .ok rs' ∧
    (s.db.content.storeAll X rs).Takes X r row ∧
    (s.db.content.storeAll X rs).last X r.object.noradCatId = some prev

/-- What a response records for the pair. -/
theorem StoredOver.codes {X : Externals} {s : Session} {body : String} {j : Json} {r : GpRecord}
    {prev : Snapshot} {row : SnapshotRow} (h : StoredOver X s body j r prev row) (rot : List Int) :
    recordedCodes (GpPoller.processResponse X rot body s).2.db r.snapshot.gpId =
      makeDefaultRuleRegistry.codes prev r.snapshot := by
  obtain ⟨pre, post, rs, rs', hvis, hpre, hpost, ht, hlast⟩ := h.turn
  have hparse : parseGpResponse X body = .ok (rs ++ r :: rs') := by
    refine parseResponse_ok.2 ⟨fun hnone => ?_, ?_⟩
    · rw [visited, hnone] at hvis
      exact absurd hvis.symm (List.append_ne_nil_of_right_ne_nil _ (List.cons_ne_nil _ _))
    · rw [hvis]
      exact parseEntries_append.2
        ⟨rs, r :: rs', hpre, parseEntries_cons_ok.2 ⟨r, rs', h.parsed, hpost, rfl⟩, rfl⟩
  have hcont : (GpPoller.processResponse X rot body s).2.db.content =
      ((s.db.content.storeAll X rs).store X r).storeAll X rs' := by
    rw [processResponse_content X rot body h.calm]
    unfold received
    rw [hparse]
    exact GpContent.storeAll_append X _ _ _
  have hmem : r.snapshot.gpId ∈
      ((s.db.content.storeAll X rs).store X r).snapshots.map (·.gpId) := by
    rw [ht.gpIds]
    exact List.mem_append_right _ (.head _)
  unfold recordedCodes
  rw [hcont, GpContent.eventsFor_storeAll rs' hmem,
    GpContent.eventsFor_new (GpContent.storeAll_named rs (content_named s.db)) ht]
  unfold GpContent.fired
  rw [hlast]
  show List.map _ (List.map _ _) = List.map _ _
  rw [List.map_map]
  rfl

/-- Missing data fires nothing: what is recorded for the pair is what would be with the stored
values in the fields that the entry lacks, and what is recorded for the next record is what would be
with its own values there. -/
structure MissingFiresNothing (j : Json) (prev curr stored next : Snapshot)
    (codes nextCodes : List String) : Prop where
  now : codes = makeDefaultRuleRegistry.codes prev (curr.fill j prev)
  later : nextCodes = makeDefaultRuleRegistry.codes (stored.fill j next) next

section
variable {X : Externals} {rot rot' : List Int} {s s' : Session} {body body' : String} {j j' : Json}
  {r r' : GpRecord} {prev : Snapshot} {row row' : SnapshotRow} {decayDate : Option Int}

end

/-- Missing data never fires an event. -/
def MissingNeverFires (X : Externals) : Prop :=
  ∀ rot rot' s s' body body' j j' r r' prev row row' decayDate, StoredOver X s body j r prev row →
    StoredOver X s' body' j' r' (row.toSnapshot X decayDate) row' →
    MissingFiresNothing j prev r.snapshot (row.toSnapshot X decayDate) r'.snapshot
      (recordedCodes (GpPoller.processResponse X rot body s).2.db r.snapshot.gpId)
      (recordedCodes (GpPoller.processResponse X rot' body' s').2.db r'.snapshot.gpId)

namespace MissingFixture

open RedeliveryFixture (entry record rowOf)

/-- An entry without the ascending node. -/
def bare : Json :=
  .obj [("NORAD_CAT_ID", .str "5"), ("GP_ID", .str "101"), ("EPOCH", .str "2026-08-23"),
    ("RA_OF_ASC_NODE", .null)]

/-- The text of the response with the three element sets. -/
def response : String := "[\x7b\"GP_ID\":\"100\"\x7d,\x7b\"GP_ID\":\"101\"\x7d,\x7b\"GP_ID\":\"102\"\x7d]"

/-- Three element sets of one object, whose ascending node does not move; the second lacks it. -/
def externals : Externals :=
  .ofTables
    [(response, .arr [entry "100" "2026-08-22" "10", bare, entry "102" "2026-08-24" "10"])] []
    [("2026-08-22", 0), ("2026-08-23", 1), ("2026-08-24", 2)]

/-- A process on the catalogue of the object. -/
def start : Session := .start (RotationFixture.catalogue 0) (calmEnv 0 response)

/-- The first element set, read back. -/
def predecessor : Snapshot := (rowOf 0 100 0 10).toSnapshot externals none

/-- The entry without the node is stored behind it, with zero for the node. -/
theorem storedOver_bare : StoredOver externals start response bare (record 101 "2026-08-23" 0)
    predecessor (rowOf 0 101 1 0) where
  calm := calmEnv_calm 0 response
  parsed := by decide +kernel
  turn := ⟨[entry "100" "2026-08-22" "10"], [entry "102" "2026-08-24" "10"],
    [record 100 "2026-08-22" 10], [record 102 "2026-08-24" 10], rfl, by decide +kernel,
    by decide +kernel, ⟨by decide +kernel, by decide +kernel, by decide +kernel⟩, by decide +kernel⟩

/-- The third is stored behind that one. -/
theorem storedOver_next : StoredOver externals start response (entry "102" "2026-08-24" "10")
    (record 102 "2026-08-24" 10) ((rowOf 0 101 1 0).toSnapshot externals none)
    (rowOf 0 102 2 10) where
  calm := calmEnv_calm 0 response
  parsed := by decide +kernel
  turn := ⟨[entry "100" "2026-08-22" "10", bare], [],
    [record 100 "2026-08-22" 10, record 101 "2026-08-23" 0], [], rfl, by decide +kernel, rfl,
    ⟨by decide +kernel, by decide +kernel, by decide +kernel⟩, by decide +kernel⟩

end MissingFixture

end VitaleBackend
