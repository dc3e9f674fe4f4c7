import VitaleBackend.RuleEngine.Basic

/-!
# Column types

What a Postgres column makes of a parameter: `VARCHAR(n)`, `INTEGER`, `SMALLINT`, `NUMERIC(p, s)`,
`DATE` and `TIMESTAMPTZ`. A value the column refuses fails the statement. Dates are day numbers and
times are microseconds since the epoch; the text conversions of both belong to Postgres and are
parameters of the model, as the JSON text parser is.
-/

namespace VitaleBackend

/-- Microseconds since 1970-01-01 00:00:00 UTC. -/
abbrev Timestamp := Int

/-- The third-party code the services call: the text parser of nlohmann::json, which throws on
malformed text, and the text conversions of Postgres for `DATE` and `TIMESTAMPTZ`. -/
structure Externals where
  parse : String → Option Json
  dateIn : String → Option Int
  dateOut : Int → String
  timestampIn : String → Option Timestamp
  timestampOut : Timestamp → String

/-- Externals that know the texts of three tables and no other. -/
def Externals.ofTables (json : List (String × Json)) (dates times : List (String × Int)) :
    Externals where
  parse text := (json.find? (·.1 = text)).map (·.2)
  dateIn text := (dates.find? (·.1 = text)).map (·.2)
  dateOut date := ((dates.find? (·.2 = date)).map (·.1)).getD ""
  timestampIn text := (times.find? (·.1 = text)).map (·.2)
  timestampOut time := ((times.find? (·.2 = time)).map (·.1)).getD ""

/-- A conversion whose failure fails the statement. -/
def columnInput (f : String → Option α) (s : String) : Except Exn α := (f s).elim (.error .db) .ok

/-- `VARCHAR(n)`: a longer text is refused unless what exceeds the length is blank, and is cut
then. -/
def varchar (n : Nat) (s : String) : Except Exn String :=
  if s.length ≤ n then .ok s
  else if (s.toList.drop n).all (· = ' ') then .ok (String.ofList (s.toList.take n))
  else .error .db

/-- `INTEGER`: 32 bits, and an error for any other number. -/
def integerColumn (i : Int) : Except Exn Int := if IsInt32 i then .ok i else .error .db

/-- `SMALLINT`: 16 bits, and an error for any other number. -/
def smallintColumn (i : Int) : Except Exn Int :=
  if -2 ^ 15 ≤ i ∧ i < 2 ^ 15 then .ok i else .error .db

/-- The nearest integer, a tie going away from zero. -/
def roundHalfAway (q : ℚ) : Int := if 0 ≤ q then ⌊q + 1 / 2⌋ else -⌊-q + 1 / 2⌋

/-- A value rounded to a number of decimals. -/
def roundToScale (scale : Nat) (q : ℚ) : ℚ := roundHalfAway (q * 10 ^ scale) / 10 ^ scale

/-- `NUMERIC(precision, scale)`: the value is rounded to the scale and refused when the digits left
of the point are too many. NaN is a numeric, an infinity is not one of a bounded precision. -/
def numericColumn (precision scale : Nat) : Double → Except Exn Double
  | .fin q =>
    if |roundToScale scale q| < 10 ^ (precision - scale) then .ok (.fin (roundToScale scale q))
    else .error .db
  | .nan => .ok .nan
  | .inf _ => .error .db

/-- An `INTEGER` column stores what it takes as it is. -/
theorem integerColumn_ok {i j : Int} : integerColumn i = .ok j ↔ IsInt32 i ∧ i = j := by
  unfold integerColumn
  split
  · next h => simp [h]
  · next h => simp [h]

/-- Integers are rounded to themselves. -/
theorem roundHalfAway_intCast (n : Int) : roundHalfAway n = n := by
  have h : ∀ m : Int, ⌊(m : ℚ) + 1 / 2⌋ = m := fun m => by
    rw [Int.floor_eq_iff]
    constructor <;> linarith
  unfold roundHalfAway
  split
  · exact h n
  · rw [← Int.cast_neg, h, neg_neg]

/-- Rounding keeps the order of numbers. -/
theorem roundHalfAway_mono {p q : ℚ} (h : p ≤ q) : roundHalfAway p ≤ roundHalfAway q := by
  have hnonneg : ∀ {r : ℚ}, 0 ≤ r → 0 ≤ ⌊r + 1 / 2⌋ := fun hr => Int.floor_nonneg.2 (by linarith)
  unfold roundHalfAway
  split
  · next hp =>
    rw [if_pos (hp.trans h)]
    exact Int.floor_le_floor (by linarith)
  · next hp =>
    have hp' : 0 ≤ ⌊-p + 1 / 2⌋ := hnonneg (by linarith)
    split
    · next hq => exact (neg_nonpos.2 hp').trans (hnonneg hq)
    · exact neg_le_neg (Int.floor_le_floor (by linarith))

/-- Zero fits every numeric column. -/
@[simp] theorem numericColumn_zero (precision scale : Nat) :
    numericColumn precision scale 0 = .ok 0 := by
  have h : roundToScale scale 0 = 0 := by
    rw [roundToScale, zero_mul, ← Int.cast_zero, roundHalfAway_intCast]
    simp
  show numericColumn precision scale (.fin 0) = .ok (.fin 0)
  rw [numericColumn, h, abs_zero, if_pos (by positivity)]

end VitaleBackend
