import VitaleBackend.Lib.Drift
import VitaleBackend.Poller.History
import VitaleBackend.Poller.MissingData

/-!
# Changes that fire no event

The rules compare an element set with the one before it and with no other. So a history without
events says that no element has changed by more than its threshold from one element set to the next,
and bounds the change over the whole history by that many thresholds. No more can be said: every
such change is that of some history without events (`quiet_history_iff`). What the tables say of an
object is the same, code by code (`reported_or_within`).
-/

namespace VitaleBackend

open Process Relational Changelog Drift

/-- The value of a finite number. -/
def Double.value : Double → ℚ
  | .fin q => q
  | _ => 0

@[simp] theorem Double.value_fin (q : ℚ) : (Double.fin q).value = q := rfl

/-- A finite number is one of the rationals. -/
theorem Double.exists_fin {x : Double} (h : x.isFinite = true) : ∃ q, x = .fin q := by
  cases x with
  | fin q => exact ⟨q, rfl⟩
  | inf s => cases h
  | nan => cases h

/-- The elements that are compared by their differences are numbers. -/
structure Snapshot.Finite (s : Snapshot) : Prop where
  inclination : s.inclination.isFinite = true
  semimajorAxis : s.semimajorAxis.isFinite = true
  raOfAscNode : s.raOfAscNode.isFinite = true
  eccentricity : s.eccentricity.isFinite = true

/-- An element does not change by more than `n` thresholds. -/
def Within (field : Snapshot → Double) (threshold : Double) (n : ℕ) (p q : Snapshot) : Prop :=
  |(field q).value - (field p).value| ≤ n * threshold.value

/-- Decided by comparing rationals. -/
instance (field : Snapshot → Double) (threshold : Double) (n : ℕ) (p q : Snapshot) :
    Decidable (Within field threshold n p q) := inferInstanceAs (Decidable (_ ≤ _))

/-- What `maneuverDetectedRule` compares does not change by more than `n` thresholds. -/
def ManeuverWithin (n : ℕ) (p q : Snapshot) : Prop :=
  Within (·.inclination) kInclinationDeltaThresholdDeg n p q ∧
    Within (·.semimajorAxis) kSemimajorAxisDeltaThresholdKm n p q

/-- The same for `raanShiftRule`. -/
def RaanWithin (n : ℕ) (p q : Snapshot) : Prop :=
  Within (·.raOfAscNode) kRaanDeltaThresholdDeg n p q

/-- The same for `eccentricityChangeRule`. -/
def EccentricityWithin (n : ℕ) (p q : Snapshot) : Prop :=
  Within (·.eccentricity) kEccentricityDeltaThreshold n p q

/-- The same for the three of them. -/
structure ChangesWithin (n : ℕ) (p q : Snapshot) : Prop where
  maneuver : ManeuverWithin n p q
  raan : RaanWithin n p q
  eccentricity : EccentricityWithin n p q

/-! ## Two element sets in a row -/

section
variable {p q : Snapshot} {field : Snapshot → Double} {threshold : Double}

/-- A rule that keeps quiet up to a threshold is quiet about finite elements exactly when they are
within one. -/
theorem fabs_sub_le (hp : (field p).isFinite = true) (hq : (field q).isFinite = true)
    (ht : threshold.isFinite = true) :
    (field q - field p).fabs.le threshold = true ↔ Within field threshold 1 p q := by
  obtain ⟨a, ha⟩ := Double.exists_fin hp
  obtain ⟨b, hb⟩ := Double.exists_fin hq
  obtain ⟨c, rfl⟩ := Double.exists_fin ht
  simp [Within, ha, hb]

/-- The same of a rule that fires above it. -/
theorem lt_fabs_sub (hp : (field p).isFinite = true) (hq : (field q).isFinite = true)
    (ht : threshold.isFinite = true) :
    threshold.lt (field q - field p).fabs = false ↔ Within field threshold 1 p q := by
  obtain ⟨a, ha⟩ := Double.exists_fin hp
  obtain ⟨b, hb⟩ := Double.exists_fin hq
  obtain ⟨c, rfl⟩ := Double.exists_fin ht
  simp [Within, ha, hb]

/-- A rule is quiet when its condition is false. -/
theorem eq_none_iff_of_isSome {rule : Rule Snapshot} {b : Bool} (h : (rule p q).isSome = b) :
    rule p q = none ↔ b = false := by
  rw [← h, Option.isSome_eq_false_iff, Option.isNone_iff_eq_none]

/-- `maneuver_detected_rule` is quiet exactly when both of its elements are within a threshold. -/
theorem maneuver_none_iff (hp : p.Finite) (hq : q.Finite) :
    maneuverDetectedRule p q = none ↔ ManeuverWithin 1 p q := by
  rw [eq_none_iff_of_isSome (maneuverDetectedRule_isSome p q), maneuverFires,
    Bool.or_eq_false_iff]
  exact and_congr (lt_fabs_sub hp.inclination hq.inclination rfl)
    (lt_fabs_sub hp.semimajorAxis hq.semimajorAxis rfl)

/-- `raan_shift_rule` is quiet exactly when the node is within its threshold. -/
theorem raan_none_iff (hp : p.Finite) (hq : q.Finite) :
    raanShiftRule p q = none ↔ RaanWithin 1 p q := by
  refine (eq_none_iff_of_isSome (deltaRule_isSome _ _ _ _ _ p q)).trans ?_
  rw [deltaFires, Bool.not_eq_false']
  exact fabs_sub_le hp.raOfAscNode hq.raOfAscNode rfl

/-- `eccentricity_change_rule` is quiet exactly when the eccentricity is within its threshold. -/
theorem eccentricity_none_iff (hp : p.Finite) (hq : q.Finite) :
    eccentricityChangeRule p q = none ↔ EccentricityWithin 1 p q := by
  refine (eq_none_iff_of_isSome (deltaRule_isSome _ _ _ _ _ p q)).trans ?_
  rw [deltaFires, Bool.not_eq_false']
  exact fabs_sub_le hp.eccentricity hq.eccentricity rfl

/-- What it means that nothing fires. -/
theorem quiet_pair_iff (hp : p.Finite) (hq : q.Finite) :
    makeDefaultRuleRegistry.evaluateAll p q = [] ↔
      ChangesWithin 1 p q ∧ dragFires p.bstar q.bstar = false := by
  rw [RuleRegistry.evaluateAll_eq_nil]
  simp only [makeDefaultRuleRegistry, List.forall_mem_cons, List.not_mem_nil, false_imp_iff,
    implies_true, and_true]
  rw [maneuver_none_iff hp hq, raan_none_iff hp hq, eccentricity_none_iff hp hq,
    eq_none_iff_of_isSome (dragChangeRule_isSome p q)]
  constructor
  · rintro ⟨hmaneuver, hraan, hecc, hdrag⟩
    exact ⟨⟨hmaneuver, hraan, hecc⟩, hdrag⟩
  · rintro ⟨⟨hmaneuver, hraan, hecc⟩, hdrag⟩
    exact ⟨hmaneuver, hraan, hecc, hdrag⟩

end

/-! ## Histories -/

section
variable {p q : Snapshot} {field : Snapshot → Double} {threshold : Double} {l : List Snapshot}

/-- The changes of a history add up. -/
theorem within_of_neighbours
    (h : ∀ r ∈ neighbours (p :: (l ++ [q])), Within field threshold 1 r.1 r.2) :
    Within field threshold (l.length + 1) p q := by
  refine abs_total_le (f := fun s => (field s).value) fun r hr => ?_
  have hr' := h r hr
  rwa [Within, Nat.cast_one, one_mul] at hr'

/-- The same of both elements that `maneuver_detected_rule` compares. -/
theorem maneuverWithin_of_neighbours
    (h : ∀ r ∈ neighbours (p :: (l ++ [q])), ManeuverWithin 1 r.1 r.2) :
    ManeuverWithin (l.length + 1) p q :=
  ⟨within_of_neighbours fun r hr => (h r hr).1, within_of_neighbours fun r hr => (h r hr).2⟩

/-- No event fires between neighbours. -/
def FiresNothing (history : List Snapshot) : Prop :=
  ∀ p ∈ neighbours history, makeDefaultRuleRegistry.evaluateAll p.1 p.2 = []

/-- The element set after `i` of `n` even steps. -/
def between (p q : Snapshot) (n i : ℕ) : Snapshot :=
  { (if i = n then q else p) with
    inclination := .fin (along p.inclination.value q.inclination.value n i)
    semimajorAxis := .fin (along p.semimajorAxis.value q.semimajorAxis.value n i)
    raOfAscNode := .fin (along p.raOfAscNode.value q.raOfAscNode.value n i)
    eccentricity := .fin (along p.eccentricity.value q.eccentricity.value n i) }

/-- All steps have finite elements. -/
theorem between_finite (p q : Snapshot) (n i : ℕ) : (between p q n i).Finite := ⟨rfl, rfl, rfl, rfl⟩

/-- The first of them is the one to start from. -/
theorem between_zero (hp : p.Finite) (q : Snapshot) (n : ℕ) : between p q (n + 1) 0 = p := by
  obtain ⟨a, ha⟩ := Double.exists_fin hp.inclination
  obtain ⟨b, hb⟩ := Double.exists_fin hp.semimajorAxis
  obtain ⟨c, hc⟩ := Double.exists_fin hp.raOfAscNode
  obtain ⟨d, hd⟩ := Double.exists_fin hp.eccentricity
  simp only [between, along_zero, ha, hb, hc, hd, Double.value_fin]
  rw [if_neg (by omega), ← ha, ← hb, ← hc, ← hd]

/-- The last of them is the one to arrive at, so that the other columns are theirs. -/
theorem between_self (p : Snapshot) (hq : q.Finite) (n : ℕ) :
    between p q (n + 1) (n + 1) = q := by
  obtain ⟨a, ha⟩ := Double.exists_fin hq.inclination
  obtain ⟨b, hb⟩ := Double.exists_fin hq.semimajorAxis
  obtain ⟨c, hc⟩ := Double.exists_fin hq.raOfAscNode
  obtain ⟨d, hd⟩ := Double.exists_fin hq.eccentricity
  simp only [between, along_self _ _ (Nat.succ_ne_zero n), ha, hb, hc, hd, Double.value_fin]
  rw [if_pos trivial, ← ha, ← hb, ← hc, ← hd]

/-- Even steps are within the thresholds when the whole change is. -/
theorem between_changes {n : ℕ} (h : ChangesWithin (n + 1) p q) (i : ℕ) :
    ChangesWithin 1 (between p q (n + 1) i) (between p q (n + 1) (i + 1)) := by
  have hone : ∀ {a b t : ℚ}, |b - a| ≤ (n + 1 : ℕ) * t →
      |along a b (n + 1) (i + 1) - along a b (n + 1) i| ≤ (1 : ℕ) * t := by
    intro a b t hab
    rw [Nat.cast_one, one_mul]
    exact abs_step_le (Nat.succ_ne_zero n) hab i
  exact ⟨⟨hone h.maneuver.1, hone h.maneuver.2⟩, hone h.raan, hone h.eccentricity⟩

/-- Between two element sets with one drag term there is a history of `n` others that fires no event
exactly when no element changes by more than `n + 1` times its threshold. -/
theorem quiet_history_iff (hp : p.Finite) (hq : q.Finite) (hb : p.bstar = q.bstar) (n : ℕ) :
    (∃ l : List Snapshot, l.length = n ∧ (∀ s ∈ l, s.Finite) ∧ FiresNothing (p :: (l ++ [q]))) ↔
      ChangesWithin (n + 1) p q := by
  constructor
  · rintro ⟨l, rfl, hl, hquiet⟩
    have hfinite : ∀ s ∈ p :: (l ++ [q]), s.Finite :=
      List.forall_mem_cons.2 ⟨hp, List.forall_mem_append.2 ⟨hl, List.forall_mem_singleton.2 hq⟩⟩
    have hchange : ∀ r ∈ neighbours (p :: (l ++ [q])), ChangesWithin 1 r.1 r.2 := by
      intro r hr
      obtain ⟨hmem₁, hmem₂⟩ := mem_of_mem_neighbours hr
      exact ((quiet_pair_iff (hfinite _ hmem₁) (hfinite _ hmem₂)).1 (hquiet r hr)).1
    exact ⟨maneuverWithin_of_neighbours fun r hr => (hchange r hr).maneuver,
      within_of_neighbours fun r hr => (hchange r hr).raan,
      within_of_neighbours fun r hr => (hchange r hr).eccentricity⟩
  · intro h
    refine ⟨(List.range n).map fun i => between p q (n + 1) (i + 1), by simp, ?_, ?_⟩
    · simp only [List.forall_mem_map]
      exact fun i _ => between_finite p q (n + 1) (i + 1)
    · intro r hr
      have hends := map_range_ends (between p q (n + 1)) n
      rw [between_zero hp, between_self p hq] at hends
      rw [← hends] at hr
      obtain ⟨i, -, rfl⟩ := mem_neighbours_range hr
      refine (quiet_pair_iff (between_finite ..) (between_finite ..)).2 ⟨between_changes h i, ?_⟩
      -- the drag term is the same all along
      have hbstar : ∀ j, (between p q (n + 1) j).bstar = p.bstar := by
        intro j
        show (if j = n + 1 then q else p).bstar = p.bstar
        split
        · exact hb.symm
        · rfl
      rw [hbstar, hbstar]
      exact dragFires_self _

end

/-- An inclination that changes by one degree in a hundred steps. -/
theorem quiet_history_hundred : ∃ l : List Snapshot, l.length = 99 ∧ (∀ s ∈ l, s.Finite) ∧
    FiresNothing ({ inclination := 50 } :: (l ++ [{ inclination := 51 }])) :=
  (@quiet_history_iff { inclination := 50 } { inclination := 51 } ⟨rfl, rfl, rfl, rfl⟩
    ⟨rfl, rfl, rfl, rfl⟩ rfl 99).2
    ⟨⟨by decide +kernel, by decide +kernel⟩, by unfold RaanWithin; decide +kernel,
      by unfold EccentricityWithin; decide +kernel⟩

/-! ## What the tables report -/

/-- An event of a code is there, or what its rule compares has not changed by more than `n`
thresholds. -/
structure ReportedOrWithin (codes : List String) (n : ℕ) (p q : Snapshot) : Prop where
  maneuver : "maneuver_detected" ∈ codes ∨ ManeuverWithin n p q
  raan : "raan_shift" ∈ codes ∨ RaanWithin n p q
  eccentricity : "eccentricity_change" ∈ codes ∨ EccentricityWithin n p q

/-- A rule whose code is not among those of a pair does not fire. -/
theorem none_of_not_mem_codes {p q : Snapshot} {rule : Rule Snapshot} {code : String}
    (hmem : rule ∈ makeDefaultRuleRegistry) (hreports : rule.Reports code)
    (h : code ∉ makeDefaultRuleRegistry.codes p q) : rule p q = none := by
  cases he : rule p q with
  | none => rfl
  | some event =>
    have hevent : event ∈ makeDefaultRuleRegistry.evaluateAll p q :=
      RuleRegistry.mem_evaluateAll.2 ⟨rule, hmem, he⟩
    exact absurd (List.mem_map.2 ⟨event, hevent, hreports he⟩) h

/-- What a history has reported of its last element set and its first, when each two neighbours
have reported their codes. -/
theorem reportedOrWithin_of_neighbours {codes : List String} {p q : Snapshot} {l : List Snapshot}
    (hfinite : ∀ s ∈ p :: (l ++ [q]), s.Finite)
    (h : ∀ r ∈ neighbours (p :: (l ++ [q])), makeDefaultRuleRegistry.codes r.1 r.2 ⊆ codes) :
    ReportedOrWithin codes (l.length + 1) p q := by
  have hnone : ∀ {rule : Rule Snapshot} {code : String}, rule ∈ makeDefaultRuleRegistry →
      rule.Reports code → code ∉ codes → ∀ r ∈ neighbours (p :: (l ++ [q])),
        r.1.Finite ∧ r.2.Finite ∧ rule r.1 r.2 = none := by
    intro rule code hmem hreports hcode r hr
    obtain ⟨hmem₁, hmem₂⟩ := mem_of_mem_neighbours hr
    exact ⟨hfinite _ hmem₁, hfinite _ hmem₂,
      none_of_not_mem_codes hmem hreports fun hc => hcode (h r hr hc)⟩
  refine ⟨or_iff_not_imp_left.2 fun hcode => ?_, or_iff_not_imp_left.2 fun hcode => ?_,
    or_iff_not_imp_left.2 fun hcode => ?_⟩
  · refine maneuverWithin_of_neighbours fun r hr => ?_
    obtain ⟨hp, hq, hquiet⟩ := hnone (.head _) maneuverDetectedRule_reports hcode r hr
    exact (maneuver_none_iff hp hq).1 hquiet
  · refine within_of_neighbours fun r hr => ?_
    obtain ⟨hp, hq, hquiet⟩ := hnone (.tail _ (.head _)) raanShiftRule_reports hcode r hr
    exact (raan_none_iff hp hq).1 hquiet
  · refine within_of_neighbours fun r hr => ?_
    obtain ⟨hp, hq, hquiet⟩ := hnone (.tail _ (.tail _ (.head _))) eccentricityChangeRule_reports
      hcode r hr
    exact (eccentricity_none_iff hp hq).1 hquiet

/-- The codes of the events of an object. -/
def eventCodes (db : Database) (n : Int) : List String :=
  (db.audtEvents.filter (·.noradCatId = n)).map (·.eventTypeCode)

/-- The tables mirror what was received, when no call fails. -/
theorem processResponses_mirrors {X : Externals} {ps : List GpResponse} {db : Database}
    (hs : db.snapshots = []) (he : db.audtEvents = []) (hc : ∀ p ∈ ps, Calm p.env)
    (hp : Promised X db.objects ((receivedAll X ps).map (·.snapshot))) :
    Mirrors X (gpLog X ((receivedAll X ps).map (·.snapshot)))
      (processResponses X ps db).content := by
  have hempty : Mirrors X .empty db.content := by
    have hrows : db.content.snapshots = [] := by
      show db.snapshots.map _ = []
      rw [hs, List.map_nil]
    refine ⟨hrows ▸ .nil, ?_, hrows ▸ .nil⟩
    show (db.audtEvents.map _).map _ = []
    rw [he]
    rfl
  rw [processResponses_content X db hc]
  exact storeAll_mirrors (c := db.content) hp hempty rfl

/-- Of every object the tables report an event of a code, or what its rule compares has not changed
by more than one threshold for each element set after the first. -/
theorem reported_or_within {X : Externals} {ps : List GpResponse} {db : Database}
    (hs : db.snapshots = []) (he : db.audtEvents = []) (hc : ∀ p ∈ ps, Calm p.env)
    (hp : Promised X db.objects ((receivedAll X ps).map (·.snapshot))) {n : Int}
    {first last : Snapshot} {l : List Snapshot}
    (hhistory : history (·.noradCatId) n ((receivedAll X ps).map (·.snapshot)) =
      first :: (l ++ [last]))
    (hfinite : ∀ s ∈ first :: (l ++ [last]), s.Finite) :
    ReportedOrWithin (eventCodes (processResponses X ps db) n) (l.length + 1) first last := by
  have hmirror := processResponses_mirrors hs he hc hp
  have hevents := (gpLog_exact hp).changes n
  rw [← hmirror.events, hhistory] at hevents
  refine reportedOrWithin_of_neighbours hfinite fun r hr code hcode => ?_
  -- the rules do not look at the epoch, which the tables return in another form
  have hprinted : makeDefaultRuleRegistry.codes (r.1.printed X) r.2 =
      makeDefaultRuleRegistry.codes r.1 r.2 := codes_eq_iff.2 ⟨rfl, rfl, rfl, rfl⟩
  rw [← hprinted] at hcode
  obtain ⟨event, hevent, rfl⟩ := List.mem_map.1 hcode
  have hchange : (⟨r.2.noradCatId, event, some r.1.gpId, some r.2.gpId⟩ : EventContent) ∈
      pairChanges X r.1 r.2 := List.mem_map_of_mem hevent
  have hmem := (hevents ▸ List.mem_flatMap.2 ⟨r, hr, hchange⟩ :)
  obtain ⟨hcontent, hn⟩ := List.mem_filter.1 hmem
  obtain ⟨recorded, hrecorded, heq⟩ := List.mem_map.1 hcontent
  obtain ⟨row, hrow, rfl⟩ := List.mem_map.1 hrecorded
  refine List.mem_map.2 ⟨row, List.mem_filter.2 ⟨hrow, ?_⟩, ?_⟩
  · rwa [← heq] at hn
  · exact congrArg (fun c : EventContent => c.event.eventTypeCode) heq

namespace DriftFixture

open RedeliveryFixture (entry record rowOf)

/-- The text of the response with both element sets. -/
def body : String := "[\x7b\"GP_ID\":\"100\"\x7d,\x7b\"GP_ID\":\"101\"\x7d]"

/-- The ascending node moves by the threshold. -/
def externals : Externals :=
  .ofTables [(body, .arr [entry "100" "2026-08-22" "10", entry "101" "2026-08-23" "10.01"])] []
    [("2026-08-22", 0), ("2026-08-23", 1)]

/-- The one response, to a request for the object. -/
def responses : List GpResponse := [⟨[5], body, calmEnv 0 body⟩]

/-- The first element set of the object. -/
def first : Snapshot := (record 100 "2026-08-22" 10).snapshot

/-- The last one, whose node has moved by a hundredth of a degree. -/
def last : Snapshot := (record 101 "2026-08-23" 10.01).snapshot

/-- Nothing lies between them. -/
theorem received_eq :
    (receivedAll externals responses).map (·.snapshot) = [] ++ [first] ++ [last] := by
  decide +kernel

/-- They are the whole history of the object. -/
theorem history_eq : history (·.noradCatId) 5 ((receivedAll externals responses).map (·.snapshot)) =
    first :: ([] ++ [last]) := by
  rw [received_eq]
  decide +kernel

/-- No call fails. -/
theorem responses_calm : ∀ p ∈ responses, Calm p.env :=
  List.forall_mem_singleton.2 (calmEnv_calm 0 body)

/-- Their elements are numbers. -/
theorem elements_finite : ∀ s ∈ first :: ([] ++ [last]), s.Finite :=
  List.forall_mem_cons.2 ⟨⟨rfl, rfl, rfl, rfl⟩, List.forall_mem_singleton.2 ⟨rfl, rfl, rfl, rfl⟩⟩

/-- Both are records that the poller promises to store: of a known object, with new `gp_id`s and in
the order of their epochs. -/
theorem promised : Promised externals (RotationFixture.catalogue 0).objects
    ((receivedAll externals responses).map (·.snapshot)) := by
  have hfit : Fits externals first (rowOf 0 100 0 10) := ⟨by decide +kernel, rfl⟩
  have hfit' : Fits externals last (rowOf 0 101 1 10.01) := ⟨by decide +kernel, rfl⟩
  rw [received_eq]
  refine .new (.new .nil (by decide) hfit (by decide) (List.forall_mem_nil _)) (by decide) hfit'
    (by decide) fun p hp _ t u ht hu => ?_
  obtain rfl : p = first := List.mem_singleton.1 hp
  have ht' : externals.timestampIn "2026-08-22" = some 0 := by decide +kernel
  have hu' : externals.timestampIn "2026-08-23" = some 1 := by decide +kernel
  cases ht'.symm.trans ht
  cases hu'.symm.trans hu
  decide

end DriftFixture

open DriftFixture in
/-- One step within the thresholds, and no event. -/
theorem reported_or_within_threshold : ReportedOrWithin
    (eventCodes (processResponses externals responses (RotationFixture.catalogue 0)) 5) 1
    first last :=
  reported_or_within rfl rfl responses_calm promised history_eq elements_finite

end VitaleBackend
