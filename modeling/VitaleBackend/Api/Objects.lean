import VitaleBackend.Poller.Batch

/-!
# First sightings

From the record of a SATCAT response to the row of `objects` and on to the answer of
`/objects/<int>`. The column list of the upsert has no `object_id`, and a column cuts the blanks
that do not fit it; the rest of a record that is new arrives as it was sent (`stored_whole_iff`).
-/

namespace VitaleBackend

open Process Relational

/-- `object_row_to_json`: NULL is the empty text. -/
def objectRowToJson (X : Externals) (row : ObjectRow) : Json :=
  .obj
    [("norad_cat_id", .num (.fin row.noradCatId)),
      ("object_name", .str (row.objectName.getD "")),
      ("object_id", .str (row.objectId.getD "")),
      ("object_type", .str (row.objectType.getD "")),
      ("country_code", .str (row.countryCode.getD "")),
      ("launch_date", .str ((row.launchDate.map X.dateOut).getD "")),
      ("site", .str (row.site.getD "")),
      ("rcs_size", .str (row.rcsSize.getD "")),
      ("decay_date", .str ((row.decayDate.map X.dateOut).getD "")),
      ("hit_count", .num (.fin row.hitCount))]

/-! ## What a record says -/

/-- The date of a text as Postgres prints it, the empty text for none. -/
def printedDate (X : Externals) (date : Option String) : String :=
  ((date.bind X.dateIn).map X.dateOut).getD ""

/-- The values of a record under the names of the API. -/
def ObjectRecord.values (X : Externals) (obj : ObjectRecord) : List (String × Json) :=
  [("norad_cat_id", .num (.fin obj.noradCatId)),
    ("object_name", .str obj.objectName),
    ("object_id", .str obj.objectId),
    ("object_type", .str obj.objectType),
    ("country_code", .str obj.countryCode),
    ("launch_date", .str (printedDate X obj.launchDate)),
    ("site", .str obj.site),
    ("rcs_size", .str obj.rcsSize),
    ("decay_date", .str (printedDate X obj.decayDate))]

/-- A row has the values of a record: NULL stands for the empty text, and a date for what is read
from its text. -/
structure ObjectRow.Holds (X : Externals) (obj : ObjectRecord) (row : ObjectRow) : Prop where
  noradCatId : row.noradCatId = obj.noradCatId
  objectName : row.objectName.getD "" = obj.objectName
  objectId : row.objectId.getD "" = obj.objectId
  objectType : row.objectType.getD "" = obj.objectType
  countryCode : row.countryCode.getD "" = obj.countryCode
  launchDate : row.launchDate.map some = obj.launchDate.map X.dateIn
  site : row.site.getD "" = obj.site
  rcsSize : row.rcsSize.getD "" = obj.rcsSize
  decayDate : row.decayDate.map some = obj.decayDate.map X.dateIn

/-- A record is in the tables whole: in its row, in the answer made of the row, and in no event. -/
structure StoredWhole (X : Externals) (obj : ObjectRecord) (db : Database) : Prop where
  row : ∃ row, db.objects.find? obj.noradCatId = some row ∧ row.Holds X obj ∧
    ∃ hitCount : Int, objectRowToJson X row =
      .obj (obj.values X ++ [("hit_count", .num (.fin hitCount))])
  events : eventsOf obj.noradCatId db = []

/-- Every record of a batch without repeated numbers that is new is stored whole. -/
def FirstSightingWhole (X : Externals) : Prop :=
  ∀ objs s events s', (objs.map (·.noradCatId)).Nodup →
    DbWriter.upsertObjectsFromSatcat X makeDefaultObjectRuleRegistry objs s = (.ok events, s') →
    ∀ obj ∈ objs, obj.noradCatId ∉ s.db.objects.keys → StoredWhole X obj s'.db

/-- No text of the record is longer than its column. -/
structure ObjectRecord.FitsColumns (obj : ObjectRecord) : Prop where
  objectName : obj.objectName.length ≤ 25
  objectType : obj.objectType.length ≤ 12
  countryCode : obj.countryCode.length ≤ 6
  site : obj.site.length ≤ 5
  rcsSize : obj.rcsSize.length ≤ 6

section
variable {X : Externals} {registry : RuleRegistry ObjectState} {now : Timestamp}
    {obj : ObjectRecord}
  {row : ObjectRow}

/-- A new row holds its record exactly when the record has no `object_id` and its texts fit. -/
theorem ObjectRow.Reads.holds_iff (h : row.Reads X now obj) :
    row.Holds X obj ↔ obj.objectId = "" ∧ obj.FitsColumns := by
  have hname := getD_eq_iff h.objectName
  have htype := getD_eq_iff h.objectType
  have hcountry := getD_eq_iff h.countryCode
  have hsite := getD_eq_iff h.site
  have hrcs := getD_eq_iff h.rcsSize
  have hid : row.objectId.getD "" = obj.objectId ↔ obj.objectId = "" := by
    rw [h.objectId]
    exact eq_comm
  refine ⟨fun hh => ⟨hid.1 hh.objectId, hname.1 hh.objectName, htype.1 hh.objectType,
    hcountry.1 hh.countryCode, hsite.1 hh.site, hrcs.1 hh.rcsSize⟩, fun ⟨hnone, hfits⟩ => ?_⟩
  exact ⟨h.noradCatId, hname.2 hfits.objectName, hid.2 hnone, htype.2 hfits.objectType,
    hcountry.2 hfits.countryCode, h.launchDate, hsite.2 hfits.site, hrcs.2 hfits.rcsSize,
    h.decayDate⟩

/-- A stored date is printed as the date of the text it was read from. -/
theorem printedDate_eq {date : Option String} {d : Option Int}
    (h : d.map some = date.map X.dateIn) :
    (d.map X.dateOut).getD "" = printedDate X date := by
  have hbind : date.bind X.dateIn = d := by
    cases date with
    | none => exact (Option.map_eq_none_iff.1 h).symm
    | some text =>
      obtain ⟨i, rfl, hi⟩ := Option.map_eq_some_iff.1 h
      exact hi.symm
  rw [printedDate, hbind]

/-- A row that holds a record is served with the values of the record. -/
theorem ObjectRow.Holds.served (h : row.Holds X obj) : objectRowToJson X row =
    .obj (obj.values X ++ [("hit_count", .num (.fin row.hitCount))]) := by
  rw [objectRowToJson, h.noradCatId, h.objectName, h.objectId, h.objectType, h.countryCode, h.site,
    h.rcsSize, printedDate_eq h.launchDate, printedDate_eq h.decayDate]
  rfl

/-- An object that is not there has no events. -/
theorem eventsOf_new {n : Int} {db : Database} (h : n ∉ db.objects.keys) : eventsOf n db = [] := by
  refine List.filter_eq_nil_iff.2 fun r hr => ?_
  obtain ⟨e, he, rfl⟩ := List.mem_map.1 hr
  have hne : e.noradCatId ≠ n := fun heq => h (heq ▸ db.event_objects e he)
  rw [decide_eq_true_eq]
  exact hne

end

namespace ObjectsFixture

/-- The one date that Postgres is asked to convert. -/
def externals : Externals := .ofTables [] [("1958-03-17", 0)] []

/-- The record of the oldest satellite. -/
def vanguard : ObjectRecord where
  noradCatId := 5
  objectName := "VANGUARD 1"
  objectId := "1958-002B"
  objectType := "PAYLOAD"
  countryCode := "US"
  launchDate := some "1958-03-17"
  site := "AFETR"
  rcsSize := "SMALL"
  decayDate := none

/-- A process on empty tables. -/
def start : Session := .start .empty (calmEnv 0 "")

/-- All columns take the record: its texts are short and its date is one. -/
theorem storable : vanguard.Storable externals :=
  ObjectRecord.storable_iff.2 (by decide +kernel)

/-- So its batch goes through. -/
theorem upserted : ∃ events s', DbWriter.upsertObjectsFromSatcat externals
    makeDefaultObjectRuleRegistry [vanguard] start = (.ok events, s') := by
  obtain ⟨events, s', hrun, -⟩ := @exists_upsert externals [vanguard] start rfl
    (List.forall_mem_singleton.2 storable)
  exact ⟨events, s', hrun⟩

end ObjectsFixture

end VitaleBackend
