import VitaleBackend.Poller.Catalogue

/-!
# Integer fields

`int_field` and `int64_field` convert the numeral that a text begins with and ask for nothing after
it, so that a text is read whole exactly when it begins with no numeral that fits, or ends with it
(`wholeOrRejected_iff`).
-/

namespace VitaleBackend

/-- The integer fields of an entry. -/
inductive IntegerField where
  | noradCatId
  | gpId
  | elementSetNo
  | revAtEpoch
  deriving DecidableEq

namespace IntegerField

/-- The key of the field. -/
def key : IntegerField → String
  | noradCatId => "NORAD_CAT_ID"
  | gpId => "GP_ID"
  | elementSetNo => "ELEMENT_SET_NO"
  | revAtEpoch => "REV_AT_EPOCH"

/-- The range of the member that a field is read into. -/
def Fits : IntegerField → Int → Prop
  | gpId => IsInt64
  | _ => IsInt32

/-- The conversion of the field: `gp_id` is the one that is read as a `long long`. -/
def convert : IntegerField → String → Except Exn Int
  | gpId => stoll
  | _ => stoi

/-- The member of a GP record. -/
def ofGp : IntegerField → GpRecord → Int
  | noradCatId, r => r.object.noradCatId
  | gpId, r => r.snapshot.gpId
  | elementSetNo, r => r.snapshot.elementSetNo
  | revAtEpoch, r => r.snapshot.revAtEpoch

/-- A text is converted exactly when it begins with a numeral that fits the member. -/
theorem convert_eq_ok {field : IntegerField} {s : String} {n : Int} :
    field.convert s = .ok n ↔ field.Fits n ∧ ∃ rest, BeginsWithInt s.toList n rest := by
  cases field with
  | gpId => exact stoll_eq_ok
  | noradCatId => exact stoi_eq_ok
  | elementSetNo => exact stoi_eq_ok
  | revAtEpoch => exact stoi_eq_ok

/-- What a member of a GP record was read from. -/
theorem numField_ofGp {field : IntegerField} {entry : Json} {r : GpRecord}
    (h : GpRecord.parseOne entry = .ok r) :
    numField field.convert entry field.key = .ok (field.ofGp r) := by
  have hread := GpRecord.parseOne_ok h
  cases field with
  | noradCatId => exact hread.noradCatId
  | gpId => exact hread.gpId
  | elementSetNo => exact hread.elementSetNo
  | revAtEpoch => exact hread.revAtEpoch

end IntegerField

/-! ## Reading a text whole -/

/-- A parser reads a text under a key whole: where an entry holds it, the record has the integer
that the text spells. -/
def ReadsWhole (parse : Externals → String → Except Exn (List α)) (value : α → Int)
    (key s : String) : Prop :=
  ∀ X jsonBody records, parse X jsonBody = .ok records →
    List.Forall₂ (fun entry record => entry.field? key = some (.str s) →
      Spells s.toList (value record)) (visited X jsonBody) records

/-- Both parsers read a text whole or throw; the SATCAT parser reads the number of the object
only. -/
structure WholeOrRejected (field : IntegerField) (s : String) : Prop where
  gp : s ≠ "" → ReadsWhole parseGpResponse field.ofGp field.key s
  satcat : s ≠ "" → field = .noradCatId →
    ReadsWhole parseSatcatResponse ObjectRecord.noradCatId field.key s

section
variable {parseOne : Json → Except Exn α} {value : α → Int} {convert : String → Except Exn Int}
  {key s : String}

/-- A text is read whole when every conversion of it is the integer it spells. -/
theorem readsWhole_of_convert
    (hread : ∀ {entry record}, parseOne entry = .ok record →
      numField convert entry key = .ok (value record))
    (hs : s ≠ "") (h : ∀ n, convert s = .ok n → Spells s.toList n) :
    ReadsWhole (fun X => parseResponse X parseOne) value key s := by
  intro X jsonBody records hp
  refine (parseEntries_ok.1 (parseResponse_ok.1 hp).2).imp fun entry record hone hkey => h _ ?_
  exact (numField_str _ hkey hs).symm.trans (hread hone)

/-- An entry with a text under one key, and nothing else. -/
def singleField (key s : String) : Json := .obj [(key, .str s)]

/-- Nothing else is found in such an entry. -/
theorem field?_singleField (key s k : String) :
    (singleField key s).field? k = if k = key then some (.str s) else none := by
  simp only [Json.field?, singleField, Json.at?, List.find?_singleton]
  split <;> rename_i h
  · rw [if_pos (of_decide_eq_true h).symm]
    rfl
  · rw [if_neg fun heq => h (decide_eq_true heq.symm)]
    rfl

/-- A body with this entry is converted, so that the text of a member that is read whole spells
it. -/
theorem ReadsWhole.spells (h : ReadsWhole (fun X => parseResponse X parseOne) value key s)
    {record : α} (hone : parseOne (singleField key s) = .ok record) :
    Spells s.toList (value record) := by
  let X : Externals := .ofTables [("", .arr [singleField key s])] [] []
  have hp : parseResponse X parseOne "" = .ok [record] :=
    parseResponse_ok.2 ⟨nofun, parseEntries_ok.2 (.cons hone .nil)⟩
  cases h X "" [record] hp with
  | cons hspells _ => exact hspells ((field?_singleField key s key).trans (if_pos rfl))

end

/-! ## Entries with one integer -/

namespace IntegerField
variable {field : IntegerField} {s : String} {n : Int}

/-- No two fields have one key. -/
theorem key_injective : Function.Injective key := by
  intro f g h
  cases f <;> cases g <;> first | rfl | exact absurd h (by decide)

/-- Every integer field but the one that is there is zero. -/
theorem numField_singleField (hs : s ≠ "") (h : field.convert s = .ok n) (f : IntegerField) :
    numField f.convert (singleField field.key s) f.key = .ok (if f = field then n else 0) := by
  have hfield := field?_singleField field.key s f.key
  split <;> rename_i hf
  · subst hf
    rw [if_pos rfl] at hfield
    rw [numField_str _ hfield hs, h]
  · rw [if_neg fun heq => hf (key_injective heq)] at hfield
    exact numField_absent _ hfield

/-- The record of an entry with one integer. -/
def soleRecord (field : IntegerField) (n : Int) : GpRecord :=
  let value (f : IntegerField) : Int := if f = field then n else 0
  { object := ⟨value noradCatId, "", "", "", "", none, "", "", none⟩
    snapshot := {
      noradCatId := value noradCatId
      gpId := value gpId
      elementSetNo := value elementSetNo
      revAtEpoch := value revAtEpoch }
    noradCatId_eq := rfl }

/-- The member that the integer is read into has it. -/
theorem ofGp_soleRecord (field : IntegerField) (n : Int) : field.ofGp (field.soleRecord n) = n := by
  cases field <;> rfl

/-- An entry with one integer becomes the record of it: every other field may be absent. -/
theorem parseOne_soleRecord (hs : s ≠ "") (h : field.convert s = .ok n) :
    GpRecord.parseOne (singleField field.key s) = .ok (field.soleRecord n) := by
  have hnum := numField_singleField hs h
  have hother : ∀ k, (∀ f : IntegerField, k ≠ f.key) →
      (singleField field.key s).field? k = none := fun k hk =>
    (field?_singleField field.key s k).trans (if_neg (hk field))
  have hstr : ∀ k, (∀ f : IntegerField, k ≠ f.key) →
      strField (singleField field.key s) k = .ok "" :=
    fun k hk => strField_absent (hother k hk)
  have hopt : ∀ k, (∀ f : IntegerField, k ≠ f.key) →
      optStrField (singleField field.key s) k = .ok none :=
    fun k hk => optStrField_absent (hother k hk)
  have hreal : ∀ k, (∀ f : IntegerField, k ≠ f.key) →
      doubleField (singleField field.key s) k = .ok 0 :=
    fun k hk => numField_absent _ (hother k hk)
  refine GpRecord.parseOne_of_readFrom ?_ rfl
  constructor
  case noradCatId => exact hnum noradCatId
  case gpId => exact hnum gpId
  case elementSetNo => exact hnum elementSetNo
  case revAtEpoch => exact hnum revAtEpoch
  case decayDate_eq => rfl
  case decayDate | launchDate => exact hopt _ fun f => by cases f <;> decide
  case objectName | objectId | objectType | countryCode | site | rcsSize | epoch | tleLine0 |
      tleLine1 | tleLine2 => exact hstr _ fun f => by cases f <;> decide
  all_goals exact hreal _ fun f => by cases f <;> decide

end IntegerField

/-- What follows a numeral that fits is white space when the text is read whole. -/
theorem WholeOrRejected.isSpaces {field : IntegerField} {s : String} {n : Int} {rest : List Char}
    (h : WholeOrRejected field s) (hbegins : BeginsWithInt s.toList n rest)
    (hfits : field.Fits n) : IsSpaces rest := by
  have hconvert := IntegerField.convert_eq_ok.2 ⟨hfits, rest, hbegins⟩
  have hs : s ≠ "" := by
    rintro rfl
    obtain ⟨gap, sign, digits, hnil, -, -, hdigits, -⟩ := hbegins
    simp [hdigits.1] at hnil
  have hspells := (h.gp hs).spells (IntegerField.parseOne_soleRecord hs hconvert)
  rw [IntegerField.ofGp_soleRecord] at hspells
  exact hbegins.spells_iff.1 hspells

/-- A text is read whole or rejected exactly when nothing but white space follows the numeral that
it begins with, or that numeral does not fit the member. -/
theorem wholeOrRejected_iff (field : IntegerField) (s : String) :
    WholeOrRejected field s ↔
      ∀ n rest, BeginsWithInt s.toList n rest → field.Fits n → IsSpaces rest := by
  constructor
  · exact fun h n rest => h.isSpaces
  · intro h
    have hconvert : ∀ n, field.convert s = .ok n → Spells s.toList n := by
      intro n hn
      obtain ⟨hfits, rest, hbegins⟩ := IntegerField.convert_eq_ok.1 hn
      exact hbegins.spells_iff.2 (h n rest hbegins hfits)
    refine ⟨fun hs => readsWhole_of_convert IntegerField.numField_ofGp hs hconvert, ?_⟩
    rintro hs rfl
    exact readsWhole_of_convert (fun hone => (ObjectRecord.parseOne_ok hone).noradCatId) hs hconvert

/-- A fraction is read as the number before its point. -/
theorem fraction_not_rejected : ¬ ∀ field s, WholeOrRejected field s := by
  intro h
  have hbegins : BeginsWithInt "25544.5".toList 25544 ['.', '5'] := scanInt_length.1 (by decide)
  have hspaces := (h .noradCatId "25544.5").isSpaces hbegins (by decide : IsInt32 25544)
  exact absurd (hspaces '.' (.head _)) (by decide)

end VitaleBackend
