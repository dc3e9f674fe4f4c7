import VitaleBackend.Cpp.Numeral
import VitaleBackend.Lib.Table
import VitaleBackend.Poller.Record

/-!
# Rendered records

`GpRecord.fields` and `ObjectRecord.fields` say under which key Space-Track renders each member of a
record, and `FieldValue.RenderedAs` as what. The parsers read every rendered list back, in order
(`rendered_read_back`).
-/

namespace VitaleBackend

open Relational

/-- The value of a member, by the type of the member. -/
inductive FieldValue where
  | text (s : String)
  | optional (s : Option String)
  | int (n : Int)
  | int64 (n : Int)
  | real (d : Double)

/-- What is under the key of a field, `none` when the field is left out. An integer of its type is
in decimal, a real number is a text that `std::stod` reads. -/
inductive FieldValue.RenderedAs : FieldValue → Option Json → Prop
  | text : RenderedAs (.text s) (some (.str s))
  | present : RenderedAs (.optional (some s)) (some (.str s))
  | null : RenderedAs (.optional none) (some .null)
  | leftOut : RenderedAs (.optional none) none
  | int : IsInt32 n → RenderedAs (.int n) (some (.str (toString n)))
  | int64 : IsInt64 n → RenderedAs (.int64 n) (some (.str (toString n)))
  | real : stod t = .ok d → RenderedAs (.real d) (some (.str t))

/-- The members of an object: one value for each key. -/
abbrev Members := Table (String × Json) String Prod.fst

/-- An object that has each field rendered under its key, in any order and among any others. -/
def Renders (fields : List (String × FieldValue)) (j : Json) : Prop :=
  ∃ members : Members, j = .obj members.rows ∧ ∀ key value, (key, value) ∈ fields →
    ∃ shown, value.RenderedAs shown ∧ ∀ v, (key, v) ∈ members.rows ↔ shown = some v

/-- The members of a SATCAT record, under their keys. -/
def ObjectRecord.fields (obj : ObjectRecord) : List (String × FieldValue) :=
  [("NORAD_CAT_ID", .int obj.noradCatId),
   ("OBJECT_NAME", .text obj.objectName),
   ("OBJECT_ID", .text obj.objectId),
   ("OBJECT_TYPE", .text obj.objectType),
   ("COUNTRY", .text obj.countryCode),
   ("LAUNCH", .optional obj.launchDate),
   ("SITE", .text obj.site),
   ("RCS_SIZE", .text obj.rcsSize),
   ("DECAY", .optional obj.decayDate)]

/-- The members of a GP record, under their keys. Both parts of the record have a number and a date
of decay. -/
def GpRecord.fields (r : GpRecord) : List (String × FieldValue) :=
  [("NORAD_CAT_ID", .int r.object.noradCatId),
   ("OBJECT_NAME", .text r.object.objectName),
   ("OBJECT_ID", .text r.object.objectId),
   ("OBJECT_TYPE", .text r.object.objectType),
   ("COUNTRY_CODE", .text r.object.countryCode),
   ("LAUNCH_DATE", .optional r.object.launchDate),
   ("SITE", .text r.object.site),
   ("RCS_SIZE", .text r.object.rcsSize),
   ("DECAY_DATE", .optional r.object.decayDate),
   ("NORAD_CAT_ID", .int r.snapshot.noradCatId),
   ("GP_ID", .int64 r.snapshot.gpId),
   ("EPOCH", .text r.snapshot.epoch),
   ("MEAN_MOTION", .real r.snapshot.meanMotion),
   ("ECCENTRICITY", .real r.snapshot.eccentricity),
   ("INCLINATION", .real r.snapshot.inclination),
   ("RA_OF_ASC_NODE", .real r.snapshot.raOfAscNode),
   ("ARG_OF_PERICENTER", .real r.snapshot.argOfPericenter),
   ("MEAN_ANOMALY", .real r.snapshot.meanAnomaly),
   ("SEMIMAJOR_AXIS", .real r.snapshot.semimajorAxis),
   ("PERIOD", .real r.snapshot.period),
   ("APOAPSIS", .real r.snapshot.apoapsis),
   ("PERIAPSIS", .real r.snapshot.periapsis),
   ("BSTAR", .real r.snapshot.bstar),
   ("MEAN_MOTION_DOT", .real r.snapshot.meanMotionDot),
   ("MEAN_MOTION_DDOT", .real r.snapshot.meanMotionDdot),
   ("ELEMENT_SET_NO", .int r.snapshot.elementSetNo),
   ("REV_AT_EPOCH", .int r.snapshot.revAtEpoch),
   ("TLE_LINE0", .text r.snapshot.tleLine0),
   ("TLE_LINE1", .text r.snapshot.tleLine1),
   ("TLE_LINE2", .text r.snapshot.tleLine2),
   ("DECAY_DATE", .optional r.snapshot.decayDate)]

/-- A snapshot that came from Space-Track has no row yet. -/
structure GpRecord.Rendered (r : GpRecord) (j : Json) : Prop where
  unstored : r.snapshot.id = 0
  renders : Renders r.fields j

/-! ## One field -/

/-- A key of an object is shown as the one member that has it. The keys are distinct. -/
theorem at?_obj {members : Members} {key : String} {shown : Option Json} :
    (Json.obj members.rows).at? key = shown ↔ ∀ v, (key, v) ∈ members.rows ↔ shown = some v := by
  have hat : (Json.obj members.rows).at? key = (members.find? key).map (·.2) := rfl
  have hmem : ∀ v, (key, v) ∈ members.rows ↔ (Json.obj members.rows).at? key = some v := by
    intro v
    rw [hat, Option.map_eq_some_iff]
    constructor
    · exact fun h => ⟨(key, v), Table.find?_eq_some.2 ⟨h, rfl⟩, rfl⟩
    · rintro ⟨⟨k, w⟩, h, rfl⟩
      have hk : k = key := Table.key_of_find? h
      subst hk
      exact Table.mem_of_find? h
  constructor
  · rintro rfl
    exact hmem
  · intro h
    exact Option.ext fun v => (hmem v).symm.trans (h v)

/-- An object renders fields when each of them is rendered under its key. -/
theorem renders_obj {fields : List (String × FieldValue)} {members : Members} :
    Renders fields (.obj members.rows) ↔
      ∀ field ∈ fields, field.2.RenderedAs ((Json.obj members.rows).at? field.1) := by
  constructor
  · rintro ⟨members', hmembers, hfields⟩ ⟨key, value⟩ hmem
    obtain ⟨shown, hshown, hkey⟩ := hfields key value hmem
    rw [Json.obj.inj hmembers, at?_obj.2 hkey]
    exact hshown
  · exact fun h => ⟨members, rfl, fun key value hmem => ⟨_, h _ hmem, at?_obj.1 rfl⟩⟩

/-- What is under the key of a field. -/
theorem Renders.at? {fields : List (String × FieldValue)} {j : Json} (h : Renders fields j)
    {key : String} {value : FieldValue} (hmem : (key, value) ∈ fields) :
    value.RenderedAs (j.at? key) := by
  obtain ⟨members, rfl, hfields⟩ := h
  exact renders_obj.1 ⟨members, rfl, hfields⟩ (key, value) hmem

/-- A conversion that refuses the empty text is made of any text that it takes. -/
theorem numField_of_ok [Zero α] {convert : String → Except Exn α} {j : Json} {key s : String}
    {a : α} (hempty : convert "" = .error .invalidArgument) (h : j.at? key = some (.str s))
    (hok : convert s = .ok a) : numField convert j key = .ok a := by
  have hs : s ≠ "" := by
    rintro rfl
    rw [hempty] at hok
    cases hok
  exact (numField_str convert (field?_of_str h) hs).trans hok

namespace FieldValue.RenderedAs
variable {j : Json} {key : String}

/-- A text is read back as it is. -/
theorem strField_eq (h : (FieldValue.text s).RenderedAs (j.at? key)) : strField j key = .ok s := by
  generalize hv : j.at? key = v at h
  cases h with
  | text =>
    rw [strField, field?_of_str hv]
    rfl

/-- An optional text is read back, or found absent. -/
theorem optStrField_eq (h : (FieldValue.optional s).RenderedAs (j.at? key)) :
    optStrField j key = .ok s := by
  generalize hv : j.at? key = v at h
  cases h with
  | present =>
    rw [optStrField, field?_of_str hv]
    rfl
  | null => exact optStrField_absent (field?_of_null hv)
  | leftOut => exact optStrField_absent (field?_of_none hv)

/-- An `int` is read back from its digits. -/
theorem intField_eq (h : (FieldValue.int n).RenderedAs (j.at? key)) : intField j key = .ok n := by
  generalize hv : j.at? key = v at h
  cases h with
  | int hn => exact numField_of_ok rfl hv (stoi_toString hn)

/-- A `long long` is read back from its digits. -/
theorem int64Field_eq (h : (FieldValue.int64 n).RenderedAs (j.at? key)) :
    int64Field j key = .ok n := by
  generalize hv : j.at? key = v at h
  cases h with
  | int64 hn => exact numField_of_ok rfl hv (stoll_toString hn)

/-- A `double` is read back from a numeral of its value. -/
theorem doubleField_eq (h : (FieldValue.real d).RenderedAs (j.at? key)) :
    doubleField j key = .ok d := by
  generalize hv : j.at? key = v at h
  cases h with
  | real hd => exact numField_of_ok rfl hv hd

end FieldValue.RenderedAs

/-! ## One record -/

/-- Each member of a record of the catalogue is read back. -/
theorem ObjectRecord.readFrom_of_renders {obj : ObjectRecord} {j : Json}
    (h : Renders obj.fields j) : obj.ReadFrom j where
  noradCatId := (h.at? (by simp [fields])).intField_eq
  objectName := (h.at? (by simp [fields])).strField_eq
  objectId := (h.at? (by simp [fields])).strField_eq
  objectType := (h.at? (by simp [fields])).strField_eq
  countryCode := (h.at? (by simp [fields])).strField_eq
  launchDate := (h.at? (by simp [fields])).optStrField_eq
  site := (h.at? (by simp [fields])).strField_eq
  rcsSize := (h.at? (by simp [fields])).strField_eq
  decayDate := (h.at? (by simp [fields])).optStrField_eq

/-- Each member of a GP record is read back. -/
theorem GpRecord.readFrom_of_renders {r : GpRecord} {j : Json} (h : Renders r.fields j) :
    r.ReadFrom j where
  noradCatId := (h.at? (by simp [fields])).intField_eq
  decayDate := (h.at? (by simp [fields])).optStrField_eq
  objectName := (h.at? (by simp [fields])).strField_eq
  objectId := (h.at? (by simp [fields])).strField_eq
  objectType := (h.at? (by simp [fields])).strField_eq
  countryCode := (h.at? (by simp [fields])).strField_eq
  launchDate := (h.at? (by simp [fields])).optStrField_eq
  site := (h.at? (by simp [fields])).strField_eq
  rcsSize := (h.at? (by simp [fields])).strField_eq
  gpId := (h.at? (by simp [fields])).int64Field_eq
  epoch := (h.at? (by simp [fields])).strField_eq
  meanMotion := (h.at? (by simp [fields])).doubleField_eq
  eccentricity := (h.at? (by simp [fields])).doubleField_eq
  inclination := (h.at? (by simp [fields])).doubleField_eq
  raOfAscNode := (h.at? (by simp [fields])).doubleField_eq
  argOfPericenter := (h.at? (by simp [fields])).doubleField_eq
  meanAnomaly := (h.at? (by simp [fields])).doubleField_eq
  semimajorAxis := (h.at? (by simp [fields])).doubleField_eq
  period := (h.at? (by simp [fields])).doubleField_eq
  apoapsis := (h.at? (by simp [fields])).doubleField_eq
  periapsis := (h.at? (by simp [fields])).doubleField_eq
  bstar := (h.at? (by simp [fields])).doubleField_eq
  meanMotionDot := (h.at? (by simp [fields])).doubleField_eq
  meanMotionDdot := (h.at? (by simp [fields])).doubleField_eq
  elementSetNo := (h.at? (by simp [fields])).intField_eq
  revAtEpoch := (h.at? (by simp [fields])).intField_eq
  tleLine0 := (h.at? (by simp [fields])).strField_eq
  tleLine1 := (h.at? (by simp [fields])).strField_eq
  tleLine2 := (h.at? (by simp [fields])).strField_eq
  decayDate_eq := by
    -- both dates are read from one key
    have hobject : optStrField j "DECAY_DATE" = .ok r.object.decayDate :=
      (h.at? (by simp [fields])).optStrField_eq
    have hsnapshot : optStrField j "DECAY_DATE" = .ok r.snapshot.decayDate :=
      (h.at? (by simp [fields])).optStrField_eq
    exact Except.ok.inj (hsnapshot.symm.trans hobject)

/-! ## A list of records -/

/-- An array whose elements render the records of a list is parsed to the list. -/
theorem parseResponse_rendered {X : Externals} {parseOne : Json → Except Exn α}
    {Rendered : α → Json → Prop} {jsonBody : String} {elements : List Json} {records : List α}
    (hone : ∀ r j, Rendered r j → parseOne j = .ok r)
    (hbody : X.parse jsonBody = some (.arr elements))
    (h : List.Forall₂ Rendered records elements) :
    parseResponse X parseOne jsonBody = .ok records := by
  have hvisited : visited X jsonBody = elements := by
    rw [visited, hbody]
    rfl
  refine parseResponse_ok.2 ⟨by simp [hbody], parseEntries_ok.2 ?_⟩
  rw [hvisited]
  exact (h.imp hone).flip

/-- Every list of SATCAT records and every list of GP records is read back as it was rendered, and
the two parts of a GP record agree. -/
theorem rendered_read_back (X : Externals) :
    (∀ jsonBody elements objs, X.parse jsonBody = some (.arr elements) →
      List.Forall₂ (fun obj j => Renders obj.fields j) objs elements →
        parseSatcatResponse X jsonBody = .ok objs) ∧
    ∀ jsonBody elements records, X.parse jsonBody = some (.arr elements) →
      List.Forall₂ GpRecord.Rendered records elements →
        parseGpResponse X jsonBody = .ok records ∧
          ∀ r ∈ records, r.snapshot.noradCatId = r.object.noradCatId ∧
            r.snapshot.decayDate = r.object.decayDate := by
  constructor
  · intro jsonBody elements objs hbody h
    refine parseResponse_rendered (fun obj j hj => ?_) hbody h
    exact ObjectRecord.parseOne_of_readFrom (ObjectRecord.readFrom_of_renders hj)
  · intro jsonBody elements records hbody h
    constructor
    · refine parseResponse_rendered (fun r j hj => ?_) hbody h
      exact GpRecord.parseOne_of_readFrom (GpRecord.readFrom_of_renders hj.renders) hj.unstored
    · intro r hr
      obtain ⟨j, -, hj⟩ := exists_right_of_mem h hr
      exact ⟨r.noradCatId_eq, (GpRecord.readFrom_of_renders hj.renders).decayDate_eq⟩

namespace RenderedFixture

/-- A satellite that never decayed, with the extreme numbers of the types. -/
def record : GpRecord where
  object := ⟨2147483647, "ISS (ZARYA)", "1998-067A", "PAYLOAD", "ISS", some "1998-11-20", "TTMTR",
    "LARGE", none⟩
  snapshot := {
    noradCatId := 2147483647
    gpId := -9223372036854775808
    epoch := "2026-08-01T00:00:00"
    meanMotion := 15.49
    eccentricity := 0.0001
    inclination := 51.6
    raOfAscNode := 120.5
    argOfPericenter := 30.25
    meanAnomaly := 330.75
    semimajorAxis := 6795.1
    period := 92.9
    apoapsis := 422.5
    periapsis := 410.5
    bstar := 0.00012
    meanMotionDot := -0.0003
    meanMotionDdot := 0
    elementSetNo := 999
    revAtEpoch := -2147483648
    tleLine0 := "0 ISS (ZARYA)"
    tleLine1 := "1 25544U"
    tleLine2 := "2 25544"
    decayDate := none }
  noradCatId_eq := rfl

/-- The record as an entry of a GP response: other keys, another order, a date left out. -/
def gpMembers : Members where
  rows := [("REV_AT_EPOCH", .str "-2147483648"), ("ELEMENT_SET_NO", .str "999"),
    ("COMMENT", .str "GENERATED VIA SPACE-TRACK.ORG API"), ("TLE_LINE2", .str "2 25544"),
    ("TLE_LINE1", .str "1 25544U"), ("TLE_LINE0", .str "0 ISS (ZARYA)"),
    ("BSTAR", .str "0.00012"), ("MEAN_MOTION_DDOT", .str "0.0"),
    ("MEAN_MOTION_DOT", .str "-0.0003"), ("PERIAPSIS", .str "410.5"), ("APOAPSIS", .str "422.5"),
    ("PERIOD", .str "92.9"), ("SEMIMAJOR_AXIS", .str "6795.1"), ("MEAN_ANOMALY", .str "330.75"),
    ("ARG_OF_PERICENTER", .str "30.25"), ("RA_OF_ASC_NODE", .str "120.5"),
    ("INCLINATION", .str "51.6"), ("ECCENTRICITY", .str "1e-4"), ("MEAN_MOTION", .str "15.49"),
    ("EPOCH", .str "2026-08-01T00:00:00"), ("GP_ID", .str "-9223372036854775808"),
    ("RCS_SIZE", .str "LARGE"), ("SITE", .str "TTMTR"), ("LAUNCH_DATE", .str "1998-11-20"),
    ("COUNTRY_CODE", .str "ISS"), ("OBJECT_TYPE", .str "PAYLOAD"),
    ("OBJECT_ID", .str "1998-067A"), ("OBJECT_NAME", .str "ISS (ZARYA)"),
    ("NORAD_CAT_ID", .str "2147483647")]
  nodup := by decide

/-- The entry renders the record, field by field: two dates are left out. -/
theorem gp_rendered : record.Rendered (.obj gpMembers.rows) where
  unstored := rfl
  renders := by
    rw [renders_obj]
    simp only [GpRecord.fields, List.forall_mem_cons]
    refine ⟨.int (by decide), .text, .text, .text, .text, .present, .text, .text, .leftOut,
      .int (by decide), .int64 (by decide), .text, .real (by decide +kernel),
      .real (by decide +kernel), .real (by decide +kernel), .real (by decide +kernel),
      .real (by decide +kernel), .real (by decide +kernel), .real (by decide +kernel),
      .real (by decide +kernel), .real (by decide +kernel), .real (by decide +kernel),
      .real (by decide +kernel), .real (by decide +kernel), .real (by decide +kernel),
      .int (by decide), .int (by decide), .text, .text, .text, .leftOut, List.forall_mem_nil _⟩

/-- A satellite that decayed and whose launch is unknown. -/
def decayed : ObjectRecord :=
  ⟨-2147483648, "SPUTNIK 1", "1957-001B", "PAYLOAD", "CIS", none, "TTMTR", "LARGE",
    some "1958-01-03"⟩

/-- The record as an entry of a SATCAT response. -/
def satcatMembers : Members where
  rows := [("DECAY", .str "1958-01-03"), ("CURRENT", .str "Y"), ("LAUNCH", .null),
    ("COUNTRY", .str "CIS"), ("SITE", .str "TTMTR"), ("RCS_SIZE", .str "LARGE"),
    ("OBJECT_TYPE", .str "PAYLOAD"), ("OBJECT_NAME", .str "SPUTNIK 1"),
    ("OBJECT_ID", .str "1957-001B"), ("NORAD_CAT_ID", .str "-2147483648")]
  nodup := by decide

/-- The entry renders the satellite: its launch is `null`. -/
theorem satcat_rendered : Renders decayed.fields (.obj satcatMembers.rows) := by
  rw [renders_obj]
  simp only [ObjectRecord.fields, List.forall_mem_cons]
  exact ⟨.int (by decide), .text, .text, .text, .text, .null, .text, .text, .present,
    List.forall_mem_nil _⟩

/-- A parser that knows one response of each class. -/
def externals : Externals :=
  .ofTables [("satcat", .arr [.obj satcatMembers.rows]), ("gp", .arr [.obj gpMembers.rows])] [] []

/-- Both records are read back from their entries. -/
theorem responses_read_back : parseSatcatResponse externals "satcat" = .ok [decayed] ∧
    parseGpResponse externals "gp" = .ok [record] :=
  ⟨(rendered_read_back externals).1 _ _ _ rfl (.cons satcat_rendered .nil),
    ((rendered_read_back externals).2 _ _ _ rfl (.cons gp_rendered .nil)).1⟩

end RenderedFixture

end VitaleBackend
