import VitaleBackend.Cpp.Number

/-!
# `nlohmann::json` values

The part of `nlohmann::json` the services use: a parsed value, `contains` and `at`, the conversion
to `std::string`, and the range-`for`, which visits the elements of an array, the values of an
object, nothing of `null`, and any other scalar itself. The text parser is third-party code and is a
parameter of the model (`Externals.parse`).
-/

namespace VitaleBackend

/-- A JSON value. The members of an object are in the order of iteration. -/
inductive Json where
  | null
  | bool (b : Bool)
  | num (d : Double)
  | str (s : String)
  | arr (elements : List Json)
  | obj (members : List (String × Json))

namespace Json

/-- `j.is_null()`. -/
def isNull : Json → Bool
  | .null => true
  | _ => false

/-- The member that `j.at(key)` returns, when `j.contains(key)`; only an object contains a key. -/
def at? (j : Json) (key : String) : Option Json :=
  match j with
  | .obj members => (members.find? fun m => m.1 = key).map (·.2)
  | _ => none

/-- `j.get<std::string>()`: a value of another type is a `type_error`. -/
def getString : Json → Except Exn String
  | .str s => .ok s
  | _ => .error .json

/-- What `for (const auto& entry : j)` visits. -/
def entries : Json → List Json
  | .arr elements => elements
  | .obj members => members.map (·.2)
  | .null => []
  | j => [j]

/-- A member that is present and not `null`. -/
def field? (j : Json) (key : String) : Option Json :=
  (j.at? key).filter fun v => !v.isNull

/-- `j[key] = v` on an object that does not contain the key. -/
def insert (j : Json) (key : String) (v : Json) : Json :=
  match j with
  | .obj members => .obj (members ++ [(key, v)])
  | j => j

end Json

/-! ## The field readers shared by both record parsers -/

/-- An absent or `null` field reads as the empty string. -/
def strField (j : Json) (key : String) : Except Exn String :=
  match j.field? key with
  | none => .ok ""
  | some v => v.getString

/-- `opt_str_field`: a field that is absent stays absent. -/
def optStrField (j : Json) (key : String) : Except Exn (Option String) :=
  match j.field? key with
  | none => .ok none
  | some v => some <$> v.getString

/-- A numeric field: `0` when its text is empty, converted otherwise. -/
def numField [Zero α] (convert : String → Except Exn α) (j : Json) (key : String) :
    Except Exn α := do
  let s ← strField j key
  if s = "" then .ok 0 else convert s

/-- `0.0`, which a field that is absent is read as. -/
instance : Zero Double := ⟨.fin 0⟩

/-- `double_field`, read with `std::stod`. -/
def doubleField : Json → String → Except Exn Double := numField stod

/-- `int_field`, read with `std::stoi`. -/
def intField : Json → String → Except Exn Int := numField stoi

/-- `int64_field`, read with `std::stoll`. -/
def int64Field : Json → String → Except Exn Int := numField stoll

section
variable {j : Json} {key s : String}

/-- A text under the key is read as it is. -/
theorem field?_of_str (h : j.at? key = some (.str s)) : j.field? key = some (.str s) := by
  rw [Json.field?, h]
  rfl

/-- A `null` is read like a key that is absent. -/
theorem field?_of_null (h : j.at? key = some .null) : j.field? key = none := by
  rw [Json.field?, h]
  rfl

/-- A key that is absent is read as no field. -/
theorem field?_of_none (h : j.at? key = none) : j.field? key = none := by
  rw [Json.field?, h]
  rfl

/-- A text that is absent is read as the empty text. -/
theorem strField_absent (h : j.field? key = none) : strField j key = .ok "" := by
  rw [strField, h]

/-- An optional text that is absent is read as none. -/
theorem optStrField_absent (h : j.field? key = none) : optStrField j key = .ok none := by
  rw [optStrField, h]

/-- An absent or `null` numeric field is zero. -/
theorem numField_absent [Zero α] (convert : String → Except Exn α) (h : j.field? key = none) :
    numField convert j key = .ok 0 := by
  rw [numField, strField_absent h]
  rfl

/-- A numeric field with a text is what the text converts to. -/
theorem numField_str [Zero α] (convert : String → Except Exn α)
    (h : j.field? key = some (.str s)) (hs : s ≠ "") : numField convert j key = convert s := by
  rw [numField, strField, h]
  exact if_neg hs

/-- A field that reads as a text is absent or holds the text. -/
theorem strField_ok (h : strField j key = .ok s) :
    (j.field? key = none ∧ s = "") ∨ j.field? key = some (.str s) := by
  unfold strField at h
  cases hv : j.field? key with
  | none =>
    rw [hv] at h
    cases h
    exact .inl ⟨rfl, rfl⟩
  | some v =>
    rw [hv] at h
    cases v with
    | str s =>
      cases h
      exact .inr rfl
    | _ => cases h

/-- A numeric field that reads as a value has no text and is zero, or its text converts to the
value. -/
theorem numField_ok [Zero α] {convert : String → Except Exn α} {a : α}
    (h : numField convert j key = .ok a) :
    (a = 0 ∧ ∀ s, j.field? key = some (.str s) → s = "") ∨
      ∃ s, j.field? key = some (.str s) ∧ convert s = .ok a := by
  obtain ⟨s, hs, ha⟩ := bind_eq_ok.1 h
  split at ha <;> rename_i hempty
  · cases ha
    refine .inl ⟨rfl, fun t ht => ?_⟩
    rcases strField_ok hs with ⟨hnone, -⟩ | hstr
    · rw [hnone] at ht
      cases ht
    · rw [hstr] at ht
      cases ht
      exact hempty
  · rcases strField_ok hs with ⟨-, rfl⟩ | hstr
    · exact absurd rfl hempty
    · exact .inr ⟨s, hstr, ha⟩

end

end VitaleBackend
