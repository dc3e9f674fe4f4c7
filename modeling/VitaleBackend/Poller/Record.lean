import VitaleBackend.RuleEngine.Basic
import VitaleBackend.Db.Column

/-!
# The record parsers

`parse_gp_response` and `parse_satcat_response`. Each entry the range-`for` visits becomes one
record; an entry that does not convert throws, and then the whole response does.
-/

namespace VitaleBackend

/-- Mirrors one row of the static `objects` table. -/
structure ObjectRecord where
  noradCatId : Int
  objectName : String
  objectId : String
  objectType : String
  countryCode : String
  launchDate : Option String
  site : String
  rcsSize : String
  decayDate : Option String
  deriving DecidableEq

/-- One entry of a GP response: both parts carry the number of the object. -/
structure GpRecord where
  object : ObjectRecord
  snapshot : Snapshot
  noradCatId_eq : snapshot.noradCatId = object.noradCatId
  deriving DecidableEq

/-- `parse_one` of `gp_record.cpp`. -/
def GpRecord.parseOne (j : Json) : Except Exn GpRecord := do
  let noradCatId ← intField j "NORAD_CAT_ID"
  let decayDate ← optStrField j "DECAY_DATE"
  let objectName ← strField j "OBJECT_NAME"
  let objectId ← strField j "OBJECT_ID"
  let objectType ← strField j "OBJECT_TYPE"
  let countryCode ← strField j "COUNTRY_CODE"
  let launchDate ← optStrField j "LAUNCH_DATE"
  let site ← strField j "SITE"
  let rcsSize ← strField j "RCS_SIZE"
  let gpId ← int64Field j "GP_ID"
  let epoch ← strField j "EPOCH"
  let meanMotion ← doubleField j "MEAN_MOTION"
  let eccentricity ← doubleField j "ECCENTRICITY"
  let inclination ← doubleField j "INCLINATION"
  let raOfAscNode ← doubleField j "RA_OF_ASC_NODE"
  let argOfPericenter ← doubleField j "ARG_OF_PERICENTER"
  let meanAnomaly ← doubleField j "MEAN_ANOMALY"
  let semimajorAxis ← doubleField j "SEMIMAJOR_AXIS"
  let period ← doubleField j "PERIOD"
  let apoapsis ← doubleField j "APOAPSIS"
  let periapsis ← doubleField j "PERIAPSIS"
  let bstar ← doubleField j "BSTAR"
  let meanMotionDot ← doubleField j "MEAN_MOTION_DOT"
  let meanMotionDdot ← doubleField j "MEAN_MOTION_DDOT"
  let elementSetNo ← intField j "ELEMENT_SET_NO"
  let revAtEpoch ← intField j "REV_AT_EPOCH"
  let tleLine0 ← strField j "TLE_LINE0"
  let tleLine1 ← strField j "TLE_LINE1"
  let tleLine2 ← strField j "TLE_LINE2"
  return {
    object := { noradCatId, objectName, objectId, objectType, countryCode, launchDate, site,
                rcsSize, decayDate }
    snapshot := { noradCatId, gpId, epoch, meanMotion, eccentricity, inclination, raOfAscNode,
                  argOfPericenter, meanAnomaly, semimajorAxis, period, apoapsis, periapsis, bstar,
                  meanMotionDot, meanMotionDdot, elementSetNo, revAtEpoch, tleLine0, tleLine1,
                  tleLine2, decayDate }
    noradCatId_eq := rfl }

/-- What each member of a GP record was read from. -/
structure GpRecord.ReadFrom (j : Json) (r : GpRecord) : Prop where
  noradCatId : intField j "NORAD_CAT_ID" = .ok r.object.noradCatId
  decayDate : optStrField j "DECAY_DATE" = .ok r.object.decayDate
  objectName : strField j "OBJECT_NAME" = .ok r.object.objectName
  objectId : strField j "OBJECT_ID" = .ok r.object.objectId
  objectType : strField j "OBJECT_TYPE" = .ok r.object.objectType
  countryCode : strField j "COUNTRY_CODE" = .ok r.object.countryCode
  launchDate : optStrField j "LAUNCH_DATE" = .ok r.object.launchDate
  site : strField j "SITE" = .ok r.object.site
  rcsSize : strField j "RCS_SIZE" = .ok r.object.rcsSize
  gpId : int64Field j "GP_ID" = .ok r.snapshot.gpId
  epoch : strField j "EPOCH" = .ok r.snapshot.epoch
  meanMotion : doubleField j "MEAN_MOTION" = .ok r.snapshot.meanMotion
  eccentricity : doubleField j "ECCENTRICITY" = .ok r.snapshot.eccentricity
  inclination : doubleField j "INCLINATION" = .ok r.snapshot.inclination
  raOfAscNode : doubleField j "RA_OF_ASC_NODE" = .ok r.snapshot.raOfAscNode
  argOfPericenter : doubleField j "ARG_OF_PERICENTER" = .ok r.snapshot.argOfPericenter
  meanAnomaly : doubleField j "MEAN_ANOMALY" = .ok r.snapshot.meanAnomaly
  semimajorAxis : doubleField j "SEMIMAJOR_AXIS" = .ok r.snapshot.semimajorAxis
  period : doubleField j "PERIOD" = .ok r.snapshot.period
  apoapsis : doubleField j "APOAPSIS" = .ok r.snapshot.apoapsis
  periapsis : doubleField j "PERIAPSIS" = .ok r.snapshot.periapsis
  bstar : doubleField j "BSTAR" = .ok r.snapshot.bstar
  meanMotionDot : doubleField j "MEAN_MOTION_DOT" = .ok r.snapshot.meanMotionDot
  meanMotionDdot : doubleField j "MEAN_MOTION_DDOT" = .ok r.snapshot.meanMotionDdot
  elementSetNo : intField j "ELEMENT_SET_NO" = .ok r.snapshot.elementSetNo
  revAtEpoch : intField j "REV_AT_EPOCH" = .ok r.snapshot.revAtEpoch
  tleLine0 : strField j "TLE_LINE0" = .ok r.snapshot.tleLine0
  tleLine1 : strField j "TLE_LINE1" = .ok r.snapshot.tleLine1
  tleLine2 : strField j "TLE_LINE2" = .ok r.snapshot.tleLine2
  decayDate_eq : r.snapshot.decayDate = r.object.decayDate

/-- Each member of a record that is parsed was read from its own key. -/
theorem GpRecord.parseOne_ok {j : Json} {r : GpRecord} (h : GpRecord.parseOne j = .ok r) :
    r.ReadFrom j := by
  unfold GpRecord.parseOne at h
  -- one field of the entry at a time: splitting all of them in one pattern is slow
  obtain ⟨_, hnoradCatId, h⟩ := bind_eq_ok.1 h
  obtain ⟨_, hdecayDate, h⟩ := bind_eq_ok.1 h
  obtain ⟨_, hobjectName, h⟩ := bind_eq_ok.1 h
  obtain ⟨_, hobjectId, h⟩ := bind_eq_ok.1 h
  obtain ⟨_, hobjectType, h⟩ := bind_eq_ok.1 h
  obtain ⟨_, hcountryCode, h⟩ := bind_eq_ok.1 h
  obtain ⟨_, hlaunchDate, h⟩ := bind_eq_ok.1 h
  obtain ⟨_, hsite, h⟩ := bind_eq_ok.1 h
  obtain ⟨_, hrcsSize, h⟩ := bind_eq_ok.1 h
  obtain ⟨_, hgpId, h⟩ := bind_eq_ok.1 h
  obtain ⟨_, hepoch, h⟩ := bind_eq_ok.1 h
  obtain ⟨_, hmeanMotion, h⟩ := bind_eq_ok.1 h
  obtain ⟨_, heccentricity, h⟩ := bind_eq_ok.1 h
  obtain ⟨_, hinclination, h⟩ := bind_eq_ok.1 h
  obtain ⟨_, hraOfAscNode, h⟩ := bind_eq_ok.1 h
  obtain ⟨_, hargOfPericenter, h⟩ := bind_eq_ok.1 h
  obtain ⟨_, hmeanAnomaly, h⟩ := bind_eq_ok.1 h
  obtain ⟨_, hsemimajorAxis, h⟩ := bind_eq_ok.1 h
  obtain ⟨_, hperiod, h⟩ := bind_eq_ok.1 h
  obtain ⟨_, hapoapsis, h⟩ := bind_eq_ok.1 h
  obtain ⟨_, hperiapsis, h⟩ := bind_eq_ok.1 h
  obtain ⟨_, hbstar, h⟩ := bind_eq_ok.1 h
  obtain ⟨_, hmeanMotionDot, h⟩ := bind_eq_ok.1 h
  obtain ⟨_, hmeanMotionDdot, h⟩ := bind_eq_ok.1 h
  obtain ⟨_, helementSetNo, h⟩ := bind_eq_ok.1 h
  obtain ⟨_, hrevAtEpoch, h⟩ := bind_eq_ok.1 h
  obtain ⟨_, htleLine0, h⟩ := bind_eq_ok.1 h
  obtain ⟨_, htleLine1, h⟩ := bind_eq_ok.1 h
  obtain ⟨_, htleLine2, h⟩ := bind_eq_ok.1 h
  cases h
  exact ⟨hnoradCatId, hdecayDate, hobjectName, hobjectId, hobjectType, hcountryCode, hlaunchDate,
    hsite, hrcsSize, hgpId, hepoch, hmeanMotion, heccentricity, hinclination, hraOfAscNode,
    hargOfPericenter, hmeanAnomaly, hsemimajorAxis, hperiod, hapoapsis, hperiapsis, hbstar,
    hmeanMotionDot, hmeanMotionDdot, helementSetNo, hrevAtEpoch, htleLine0, htleLine1, htleLine2,
    rfl⟩

/-- An entry from which every member can be read converts; the id of a snapshot is read from
none. -/
theorem GpRecord.parseOne_of_readFrom {j : Json} {r : GpRecord} (h : r.ReadFrom j)
    (hid : r.snapshot.id = 0) : GpRecord.parseOne j = .ok r := by
  simp only [GpRecord.parseOne, h.noradCatId, h.decayDate, h.objectName, h.objectId, h.objectType,
    h.countryCode, h.launchDate, h.site, h.rcsSize, h.gpId, h.epoch, h.meanMotion, h.eccentricity,
    h.inclination, h.raOfAscNode, h.argOfPericenter, h.meanAnomaly, h.semimajorAxis, h.period,
    h.apoapsis, h.periapsis, h.bstar, h.meanMotionDot, h.meanMotionDdot, h.elementSetNo,
    h.revAtEpoch, h.tleLine0, h.tleLine1, h.tleLine2, bind, Except.bind, pure, Except.pure]
  have hdecay := h.decayDate_eq
  clear h
  obtain ⟨object, snapshot, hnorad⟩ := r
  cases snapshot
  dsimp only at hid hdecay hnorad
  subst hid hdecay hnorad
  rfl

/-- `parse_one` of `satcat_record.cpp`. -/
def ObjectRecord.parseOne (j : Json) : Except Exn ObjectRecord := do
  let noradCatId ← intField j "NORAD_CAT_ID"
  let objectName ← strField j "OBJECT_NAME"
  let objectId ← strField j "OBJECT_ID"
  let objectType ← strField j "OBJECT_TYPE"
  let countryCode ← strField j "COUNTRY"
  let launchDate ← optStrField j "LAUNCH"
  let site ← strField j "SITE"
  let rcsSize ← strField j "RCS_SIZE"
  let decayDate ← optStrField j "DECAY"
  return { noradCatId, objectName, objectId, objectType, countryCode, launchDate, site, rcsSize,
           decayDate }

/-- What each member of a record was read from. -/
structure ObjectRecord.ReadFrom (j : Json) (obj : ObjectRecord) : Prop where
  noradCatId : intField j "NORAD_CAT_ID" = .ok obj.noradCatId
  objectName : strField j "OBJECT_NAME" = .ok obj.objectName
  objectId : strField j "OBJECT_ID" = .ok obj.objectId
  objectType : strField j "OBJECT_TYPE" = .ok obj.objectType
  countryCode : strField j "COUNTRY" = .ok obj.countryCode
  launchDate : optStrField j "LAUNCH" = .ok obj.launchDate
  site : strField j "SITE" = .ok obj.site
  rcsSize : strField j "RCS_SIZE" = .ok obj.rcsSize
  decayDate : optStrField j "DECAY" = .ok obj.decayDate

/-- The same of a record of the catalogue. -/
theorem ObjectRecord.parseOne_ok {j : Json} {obj : ObjectRecord}
    (h : ObjectRecord.parseOne j = .ok obj) : obj.ReadFrom j := by
  simp only [ObjectRecord.parseOne, bind_eq_ok] at h
  obtain ⟨_, hnumber, _, hname, _, hid, _, htype, _, hcountry, _, hlaunch, _, hsite, _, hrcs, _,
    hdecay, ⟨⟩⟩ := h
  exact ⟨hnumber, hname, hid, htype, hcountry, hlaunch, hsite, hrcs, hdecay⟩

/-- An entry from which every member can be read converts. -/
theorem ObjectRecord.parseOne_of_readFrom {j : Json} {obj : ObjectRecord} (h : obj.ReadFrom j) :
    ObjectRecord.parseOne j = .ok obj := by
  simp only [ObjectRecord.parseOne, h.noradCatId, h.objectName, h.objectId, h.objectType,
    h.countryCode, h.launchDate, h.site, h.rcsSize, h.decayDate, bind, Except.bind, pure,
    Except.pure]

/-- Converts what the range-`for` visits, in order; the first entry that throws ends the parse. -/
def parseEntries (parseOne : Json → Except Exn α) : List Json → Except Exn (List α)
  | [] => .ok []
  | entry :: entries => do
    let record ← parseOne entry
    let records ← parseEntries parseOne entries
    return record :: records

/-- The parse of a whole body. -/
def parseResponse (X : Externals) (parseOne : Json → Except Exn α) (jsonBody : String) :
    Except Exn (List α) :=
  match X.parse jsonBody with
  | none => .error .json
  | some parsed => parseEntries parseOne parsed.entries

/-- `GpRecord::parse_response`. -/
def parseGpResponse (X : Externals) : String → Except Exn (List GpRecord) :=
  parseResponse X GpRecord.parseOne

/-- `ObjectRecord::parse_response`. -/
def parseSatcatResponse (X : Externals) : String → Except Exn (List ObjectRecord) :=
  parseResponse X ObjectRecord.parseOne

/-! ## When a parse succeeds -/

/-- In related lists every element on the right has one on the left. -/
theorem exists_left_of_mem {R : α → β → Prop} {l : List α} {l' : List β} (h : List.Forall₂ R l l')
    {b : β} (hb : b ∈ l') : ∃ a ∈ l, R a b := by
  induction h with
  | nil => cases hb
  | cons hr _ ih =>
    rcases List.mem_cons.1 hb with rfl | hb
    · exact ⟨_, .head _, hr⟩
    · obtain ⟨a, ha, hab⟩ := ih hb
      exact ⟨a, .tail _ ha, hab⟩

/-- In related lists every element on the left has one on the right. -/
theorem exists_right_of_mem {R : α → β → Prop} {l : List α} {l' : List β} (h : List.Forall₂ R l l')
    {a : α} (ha : a ∈ l) : ∃ b ∈ l', R a b :=
  exists_left_of_mem h.flip ha

section
variable {parseOne : Json → Except Exn α}

/-- No entries make no records. -/
@[simp] theorem parseEntries_nil : parseEntries parseOne [] = .ok [] := rfl

/-- Entries are parsed one after the other, and the first that fails ends it. -/
theorem parseEntries_cons_ok {j : Json} {js : List Json} {rs : List α} :
    parseEntries parseOne (j :: js) = .ok rs ↔
      ∃ r rs', parseOne j = .ok r ∧ parseEntries parseOne js = .ok rs' ∧ rs = r :: rs' := by
  simp only [parseEntries, bind_eq_ok]
  constructor
  · rintro ⟨r, hr, rs', hrs, ⟨⟩⟩
    exact ⟨r, rs', hr, hrs, rfl⟩
  · rintro ⟨r, rs', hr, hrs, rfl⟩
    exact ⟨r, hr, rs', hrs, rfl⟩

/-- A parse succeeds exactly with one record for each entry, in order. -/
theorem parseEntries_ok {js : List Json} {rs : List α} :
    parseEntries parseOne js = .ok rs ↔ List.Forall₂ (fun j r => parseOne j = .ok r) js rs := by
  induction js generalizing rs with
  | nil => cases rs <;> simp
  | cons j js ih =>
    rw [parseEntries_cons_ok]
    constructor
    · rintro ⟨r, rs', hr, hrs, rfl⟩
      exact .cons hr (ih.1 hrs)
    · intro h
      cases h with
      | cons hr hrs => exact ⟨_, _, hr, ih.2 hrs, rfl⟩

/-- Every record comes from an entry. -/
theorem exists_entry_of_mem {js : List Json} {rs : List α} {r : α}
    (h : parseEntries parseOne js = .ok rs) (hr : r ∈ rs) : ∃ j ∈ js, parseOne j = .ok r :=
  exists_left_of_mem (parseEntries_ok.1 h) hr

/-- Every entry becomes a record. -/
theorem exists_record_of_mem {js : List Json} {rs : List α} {j : Json}
    (h : parseEntries parseOne js = .ok rs) (hj : j ∈ js) : ∃ r ∈ rs, parseOne j = .ok r :=
  exists_right_of_mem (parseEntries_ok.1 h) hj

/-- What holds of every record holds of what the entries become. -/
theorem forall_record_iff {P : α → Prop} {js : List Json} {rs : List α}
    (h : parseEntries parseOne js = .ok rs) :
    (∀ r ∈ rs, P r) ↔ ∀ j ∈ js, ∀ r, parseOne j = .ok r → P r := by
  constructor
  · intro hall j hj r hr
    obtain ⟨r', hr', hjr'⟩ := exists_record_of_mem h hj
    rw [hr] at hjr'
    cases hjr'
    exact hall r hr'
  · intro hall r hr
    obtain ⟨j, hj, hjr⟩ := exists_entry_of_mem h hr
    exact hall j hj r hjr

/-- An entry that converts. -/
def Converts (parseOne : Json → Except Exn α) (j : Json) : Prop := ∃ r, parseOne j = .ok r

/-- A parse succeeds exactly when every entry converts. -/
theorem parseEntries_converts {js : List Json} :
    (∃ rs, parseEntries parseOne js = .ok rs) ↔ ∀ j ∈ js, Converts parseOne j := by
  induction js with
  | nil => simp
  | cons j js ih =>
    rw [List.forall_mem_cons, ← ih]
    constructor
    · rintro ⟨rs, h⟩
      obtain ⟨r, rs', hr, hrs, -⟩ := parseEntries_cons_ok.1 h
      exact ⟨⟨r, hr⟩, rs', hrs⟩
    · rintro ⟨⟨r, hr⟩, rs', hrs⟩
      exact ⟨_, parseEntries_cons_ok.2 ⟨r, rs', hr, hrs, rfl⟩⟩

/-- A parse throws exactly when some entry does not convert. -/
theorem parseEntries_error {js : List Json} :
    (∃ e, parseEntries parseOne js = .error e) ↔ ∃ j ∈ js, ¬ Converts parseOne j := by
  have h := @parseEntries_converts _ parseOne js
  cases hp : parseEntries parseOne js with
  | error e =>
    rw [hp] at h
    have hn : ¬ ∀ j ∈ js, Converts parseOne j := fun hc => by simpa using h.2 hc
    simpa using hn
  | ok rs =>
    rw [hp] at h
    have hc := h.1 ⟨rs, rfl⟩
    simp only [reduceCtorEq, exists_false, false_iff, not_exists, not_and, not_not]
    exact hc

/-- A parse of two lists in a row. -/
theorem parseEntries_append {js ks : List Json} {rs : List α} :
    parseEntries parseOne (js ++ ks) = .ok rs ↔
      ∃ rs₁ rs₂, parseEntries parseOne js = .ok rs₁ ∧ parseEntries parseOne ks = .ok rs₂ ∧
        rs = rs₁ ++ rs₂ := by
  induction js generalizing rs with
  | nil => simp
  | cons j js ih =>
    rw [List.cons_append, parseEntries_cons_ok]
    constructor
    · rintro ⟨r, rs', hr, hrs, rfl⟩
      obtain ⟨rs₁, rs₂, h₁, h₂, rfl⟩ := ih.1 hrs
      exact ⟨r :: rs₁, rs₂, parseEntries_cons_ok.2 ⟨r, rs₁, hr, h₁, rfl⟩, h₂, rfl⟩
    · rintro ⟨rs₁, rs₂, h₁, h₂, rfl⟩
      obtain ⟨r, rs', hr, hrs, rfl⟩ := parseEntries_cons_ok.1 h₁
      exact ⟨r, rs' ++ rs₂, hr, ih.2 ⟨rs', rs₂, hrs, h₂, rfl⟩, rfl⟩

end

/-- What the range-`for` visits in a body. -/
def visited (X : Externals) (jsonBody : String) : List Json :=
  ((X.parse jsonBody).map Json.entries).getD []

/-- A body that parses becomes the records of what the range-`for` visits. -/
theorem parseResponse_ok {X : Externals} {parseOne : Json → Except Exn α} {jsonBody : String}
    {records : List α} : parseResponse X parseOne jsonBody = .ok records ↔
      X.parse jsonBody ≠ none ∧ parseEntries parseOne (visited X jsonBody) = .ok records := by
  unfold parseResponse visited
  cases X.parse jsonBody with
  | none => simp
  | some parsed => simp

/-- A body parses exactly when it is JSON and everything visited converts. -/
theorem parseResponse_converts {X : Externals} {parseOne : Json → Except Exn α}
    {jsonBody : String} : (∃ records, parseResponse X parseOne jsonBody = .ok records) ↔
      X.parse jsonBody ≠ none ∧ ∀ v ∈ visited X jsonBody, Converts parseOne v := by
  simp only [parseResponse_ok, exists_and_left, parseEntries_converts]

end VitaleBackend
