import Mathlib.Algebra.Order.Field.Rat
import Mathlib.Data.Rat.Floor

/-!
# Numbers of the C++ services

`Double` is a `double` in exact arithmetic: a finite value is a rational and is never rounded, the
infinities and NaN behave as IEEE 754 says. `stoi`, `stoll` and `stod` are the conversions of
`<string>`: each skips leading white space, reads the longest prefix of its grammar and ignores what
follows.
-/

namespace VitaleBackend

/-- What a service throws. `db` is what libpqxx throws for a failed statement or connection, `json`
is `nlohmann::json::exception`, `runtimeError` carries its own text. -/
inductive Exn where
  | db
  | json
  | invalidArgument
  | outOfRange
  | runtimeError (what : String)
  deriving Repr, DecidableEq

/-- A sequence that returns: its first step returned, and the rest did on what it returned. -/
theorem bind_eq_ok {ε : Type u} {α β : Type v} {x : Except ε α} {f : α → Except ε β} {b : β} :
    (x >>= f) = .ok b ↔ ∃ a, x = .ok a ∧ f a = .ok b := by
  cases x with
  | error e => simp [bind, Except.bind]
  | ok a => simp [bind, Except.bind]

/-! ## `double` -/

/-- A `double` in exact arithmetic. -/
inductive Double where
  | fin (q : ℚ)
  | inf (negative : Bool)
  | nan
  deriving Repr, DecidableEq

namespace Double

/-- Numerals are exact. -/
instance : OfNat Double n := ⟨fin n⟩

/-- So are decimal fractions. -/
instance : OfScientific Double := ⟨fun m s e => fin (OfScientific.ofScientific m s e)⟩

/-- `-x`. -/
protected def neg : Double → Double
  | fin q => fin (-q)
  | inf s => inf !s
  | nan => nan

/-- `x + y`. -/
protected def add : Double → Double → Double
  | fin a, fin b => fin (a + b)
  | fin _, inf s | inf s, fin _ => inf s
  | inf s, inf t => if s = t then inf s else nan
  | nan, _ | _, nan => nan

/-- `-x`, written as the source writes it. -/
instance : Neg Double := ⟨Double.neg⟩

/-- `x - y` is the sum with the negated number, as IEEE 754 has it. -/
instance : Sub Double := ⟨fun x y => Double.add x (-y)⟩

/-- `x / y`. The sign of a zero is not kept. -/
protected def div : Double → Double → Double
  | fin a, fin b =>
    if b = 0 then if a = 0 then nan else inf (a < 0) else fin (a / b)
  | inf s, fin b => inf (s ^^ (b < 0))
  | fin _, inf _ => fin 0
  | _, _ => nan

/-- `x / y`. -/
instance : Div Double := ⟨Double.div⟩

/-- `std::fabs`. -/
def fabs : Double → Double
  | fin q => fin |q|
  | inf _ => inf false
  | nan => nan

/-- `x < y`: no comparison with NaN holds. -/
def lt : Double → Double → Bool
  | fin a, fin b => a < b
  | fin _, inf t => !t
  | inf s, fin _ => s
  | inf s, inf t => s && !t
  | _, _ => false

/-- `x <= y`. -/
def le : Double → Double → Bool
  | fin a, fin b => a ≤ b
  | fin _, inf t => !t
  | inf s, fin _ => s
  | inf s, inf t => s || !t
  | _, _ => false

/-- The difference of finite numbers is theirs. -/
@[simp] theorem fin_sub_fin (a b : ℚ) : fin a - fin b = fin (a - b) := by
  show fin (a + -b) = fin (a - b)
  rw [sub_eq_add_neg]

/-- So is the absolute value. -/
@[simp] theorem fabs_fin (q : ℚ) : fabs (fin q) = fin |q| := rfl
@[simp] theorem lt_fin (a b : ℚ) : lt (fin a) (fin b) = decide (a < b) := rfl
@[simp] theorem le_fin (a b : ℚ) : le (fin a) (fin b) = decide (a ≤ b) := rfl

/-- Neither an infinity nor NaN. -/
def isFinite : Double → Bool
  | fin _ => true
  | _ => false

/-- A difference to zero is as large as the number. -/
theorem fabs_zero_sub (x : Double) : ((0 : Double) - x).fabs = x.fabs := by
  cases x with
  | fin q =>
    show fabs (fin 0 - fin q) = _
    simp
  | inf s => rfl
  | nan => rfl

/-- A difference from zero is as large as the number, too. -/
theorem fabs_sub_zero (x : Double) : (x - (0 : Double)).fabs = x.fabs := by
  cases x with
  | fin q =>
    show fabs (fin q - fin 0) = _
    simp
  | inf s => rfl
  | nan => rfl

/-- What `x - x` is: zero of a number, NaN otherwise. -/
theorem sub_self_eq (x : Double) : x - x = if x.isFinite then fin 0 else nan := by
  cases x with
  | fin q => simp [isFinite]
  | inf s => cases s <;> rfl
  | nan => rfl

/-- The quotient of finite numbers is theirs, where the divisor is not zero. -/
theorem fin_div_fin (a : ℚ) {b : ℚ} (h : b ≠ 0) : fin a / fin b = fin (a / b) := by
  show Double.div (fin a) (fin b) = _
  rw [Double.div, if_neg h]

end Double

/-! ## Scanning -/

/-- `isspace` in the C locale. -/
def isspace (c : Char) : Bool :=
  c.toNat = 32 || (9 ≤ c.toNat && c.toNat ≤ 13)

/-- The value of a decimal or hexadecimal digit. -/
def digitValue (c : Char) : Nat :=
  if c.isDigit then c.toNat - 48
  else if c.isLower then c.toNat - 87
  else c.toNat - 55

/-- The number that digits denote in a base. -/
def digitsValue (base : Nat) (ds : List Char) : Nat :=
  ds.foldl (fun n c => base * n + digitValue c) 0

/-- An optional sign: whether it is a minus, and what follows. -/
def scanSign : List Char → Bool × List Char
  | '-' :: cs => (true, cs)
  | '+' :: cs => (false, cs)
  | cs => (false, cs)

/-- The value with a sign put back. -/
def withSign (negative : Bool) (n : Nat) : Int := if negative then -n else n

/-- `strtol` and `strtoll` in base 10, before saturation: nothing when no digit is there. -/
def strtol (s : List Char) : Option Int :=
  let (negative, t) := scanSign (s.dropWhile isspace)
  let ds := t.takeWhile Char.isDigit
  if ds = [] then none else some (withSign negative (digitsValue 10 ds))

/-- A value of the 32-bit `int` and of an `INTEGER` column. -/
def IsInt32 (n : Int) : Prop := -2 ^ 31 ≤ n ∧ n < 2 ^ 31

/-- A value of the 64-bit `std::int64_t`. -/
def IsInt64 (n : Int) : Prop := -2 ^ 63 ≤ n ∧ n < 2 ^ 63

/-- Decided by its two bounds. -/
instance (n : Int) : Decidable (IsInt32 n) := inferInstanceAs (Decidable (_ ∧ _))

/-- Decided by its two bounds. -/
instance (n : Int) : Decidable (IsInt64 n) := inferInstanceAs (Decidable (_ ∧ _))

/-- `std::stoi`. -/
def stoi (s : String) : Except Exn Int :=
  match strtol s.toList with
  | none => .error .invalidArgument
  | some n => if IsInt32 n then .ok n else .error .outOfRange

/-- `std::stoll`. -/
def stoll (s : String) : Except Exn Int :=
  match strtol s.toList with
  | none => .error .invalidArgument
  | some n => if IsInt64 n then .ok n else .error .outOfRange

/-- What follows a keyword, in any case. -/
def scanKeyword (word : List Char) (s : List Char) : Option (List Char) :=
  if (s.take word.length).map Char.toLower = word then some (s.drop word.length) else none

/-- An exponent after its letter, `0` when there is none. -/
def scanExponent (letter : Char) : List Char → Int
  | c :: cs =>
    if c.toLower = letter then
      let (negative, t) := scanSign cs
      withSign negative (digitsValue 10 (t.takeWhile Char.isDigit))
    else 0
  | [] => 0

/-- A hexadecimal digit. -/
def isHexDigit (c : Char) : Bool :=
  c.isDigit || ('a'.toNat ≤ c.toLower.toNat && c.toLower.toNat ≤ 'f'.toNat)

/-- Digits with an optional point, and an optional exponent: the value is the digits times
`expBase` to the exponent, one `digitBase` less for each digit after the point. -/
def scanFloat (isDigit : Char → Bool) (digitBase expBase : Nat) (letter : Char) (s : List Char) :
    Option ℚ :=
  let whole := s.takeWhile isDigit
  let rest := s.dropWhile isDigit
  let (frac, rest) := match rest with
    | '.' :: cs => (cs.takeWhile isDigit, cs.dropWhile isDigit)
    | _ => ([], rest)
  if whole ++ frac = [] then none
  else some ((digitsValue digitBase (whole ++ frac) : ℚ) / (digitBase : ℚ) ^ frac.length *
    (expBase : ℚ) ^ scanExponent letter rest)

/-- `strtod` without a sign: a keyword, a hexadecimal or a decimal number. -/
def scanUnsigned (s : List Char) : Option Double :=
  if (scanKeyword ['i', 'n', 'f'] s).isSome then some (.inf false)
  else if (scanKeyword ['n', 'a', 'n'] s).isSome then some .nan
  else match (scanKeyword ['0', 'x'] s).bind (scanFloat isHexDigit 16 2 'p') with
    | some q => some (.fin q)
    | none => (scanFloat Char.isDigit 10 10 'e' s).map .fin

/-- `strtod`: nothing when no number is there. -/
def strtod (s : List Char) : Option Double :=
  let (negative, t) := scanSign (s.dropWhile isspace)
  (scanUnsigned t).map fun d => if negative then -d else d

/-- `strtod` reports `ERANGE`: the value rounds past the largest `double`, or lies below the
smallest normal one without being a `double` itself. -/
def RangeError (q : ℚ) : Prop :=
  2 ^ 1024 - 2 ^ 970 ≤ |q| ∨ (q ≠ 0 ∧ |q| < 1 / 2 ^ 1022 ∧ (q * 2 ^ 1074).den ≠ 1)

/-- Decided by its two cases. -/
instance (q : ℚ) : Decidable (RangeError q) := inferInstanceAs (Decidable (_ ∨ _))

/-- `std::stod`. -/
def stod (s : String) : Except Exn Double :=
  match strtod s.toList with
  | none => .error .invalidArgument
  | some (.fin q) => if RangeError q then .error .outOfRange else .ok (.fin q)
  | some d => .ok d

example : stoi " -12abc" = .ok (-12) := by decide
example : (stod "1.5e1x").toOption = some (.fin 15) := by decide +kernel

end VitaleBackend
