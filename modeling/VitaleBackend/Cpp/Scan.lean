import Mathlib.Data.List.DropRight
import VitaleBackend.Cpp.Time
import VitaleBackend.Lib.LongestPrefix

/-!
# `sscanf`

What the services use of `sscanf`: words and integers of a bounded width. A text is read as a C
string, one character for each byte, up to the first NUL. `TakesWord` and `TakesInt` say which texts
a conversion takes, and `scanWord_eq_some` and `scanInt_eq_some` that it takes these and no others.
A padded integer that fits its width is read back whole (`scanInt_padded`).
-/

namespace VitaleBackend

/-- `s.c_str()`, as a function of C reads it. -/
def cStr (s : String) : List Char := s.toList.takeWhile (· ≠ '\x00')

/-- White space in the format. -/
def skipSpace (s : List Char) : List Char := s.dropWhile isspace

/-- A character of the format that is no conversion. -/
def scanLiteral (c : Char) : List Char → Option (List Char)
  | [] => none
  | d :: s => if d = c then some s else none

/-- `%<width>s`: what was read, and what is left. -/
def scanWord (width : Nat) (s : List Char) : Option (List Char × List Char) :=
  let word := ((skipSpace s).take width).takeWhile fun c => !isspace c
  if word = [] then none else some (word, (skipSpace s).drop word.length)

/-- `%<width>d`: the width counts the sign. -/
def scanInt (width : Nat) (s : List Char) : Option (Int × List Char) :=
  let field := (skipSpace s).take width
  let (negative, t) := scanSign field
  let ds := t.takeWhile Char.isDigit
  if ds = [] then none
  else some (withSign negative (digitsValue 10 ds),
    (skipSpace s).drop (field.length - t.length + ds.length))

example : scanInt 4 "12026 ".toList = some (1202, ['6', ' ']) := by decide

/-- A text without a terminating character is read to its end. -/
theorem cStr_of_forall {s : String} (h : ∀ c ∈ s.toList, c ≠ '\x00') : cStr s = s.toList :=
  List.takeWhile_eq_self_iff.2 fun c hc => decide_eq_true (h c hc)

/-- A literal character of the format takes the same character of the input, and no other. -/
theorem scanLiteral_eq_some {c : Char} {s rest : List Char} :
    scanLiteral c s = some rest ↔ s = c :: rest := by
  cases s with
  | nil => simp [scanLiteral]
  | cons d s => simp [scanLiteral]

/-- In particular it takes itself. -/
@[simp] theorem scanLiteral_self (c : Char) (s : List Char) : scanLiteral c (c :: s) = some s :=
  if_pos rfl

/-! ## White space -/

/-- A text of white space. -/
def IsSpaces (s : List Char) : Prop := ∀ c ∈ s, isspace c = true

/-- No digit is white space. -/
theorem isspace_of_isDigit {c : Char} (h : c.isDigit = true) : isspace c = false := by
  have hle : 48 ≤ c.toNat := by
    simp only [Char.isDigit, Bool.and_eq_true, decide_eq_true_eq] at h
    exact h.1
  simp only [isspace, Bool.or_eq_false_iff, Bool.and_eq_false_iff, decide_eq_false_iff_not]
  omega

/-- What is skipped is the white space that the text begins with. -/
theorem exists_gap (s : List Char) : ∃ gap, IsSpaces gap ∧ s = gap ++ skipSpace s :=
  ⟨s.takeWhile isspace, fun _ hc => List.mem_takeWhile_imp hc,
    List.takeWhile_append_dropWhile.symm⟩

/-- White space is skipped up to a text that begins with none. -/
theorem skipSpace_gap {gap s : List Char} (hgap : IsSpaces gap)
    (hs : ∀ c ∈ s.head?, isspace c = false) : skipSpace (gap ++ s) = s :=
  LongestPrefix.dropWhile_append_of_head hgap hs

/-- There is nothing left to skip behind it. -/
@[simp] theorem skipSpace_skipSpace (s : List Char) : skipSpace (skipSpace s) = skipSpace s :=
  List.dropWhile_idempotent isspace s

/-- A conversion skips white space of its own, so that white space in the format before it is
idle. -/
@[simp] theorem scanWord_skipSpace (width : Nat) (s : List Char) :
    scanWord width (skipSpace s) = scanWord width s := by
  simp only [scanWord, skipSpace_skipSpace]

/-- `%d` skips white space by itself, so that it does not matter whether it was skipped before. -/
@[simp] theorem scanInt_skipSpace (width : Nat) (s : List Char) :
    scanInt width (skipSpace s) = scanInt width s := by
  simp only [scanInt, skipSpace_skipSpace]

/-- `%s` takes no notice of a blank in front of it. -/
@[simp] theorem scanWord_blank (width : Nat) (s : List Char) :
    scanWord width (' ' :: s) = scanWord width s := rfl

/-- `%d` takes no notice of a blank in front of it. -/
@[simp] theorem scanInt_blank (width : Nat) (s : List Char) :
    scanInt width (' ' :: s) = scanInt width s := rfl

/-! ## `%<width>s` -/

/-- White space, and as many other characters as there are up to the width. -/
def TakesWord (width : Nat) (s word rest : List Char) : Prop :=
  ∃ gap field, s = gap ++ field ∧ IsSpaces gap ∧
    LongestPrefix (fun c => !isspace c) width field word rest ∧ word ≠ []

/-- `%Ns` takes the longest word that fits its width. -/
theorem scanWord_eq_some {width : Nat} {s word rest : List Char} :
    scanWord width s = some (word, rest) ↔ TakesWord width s word rest := by
  simp only [scanWord, Option.ite_none_left_eq_some, Option.some.injEq, Prod.mk.injEq]
  constructor
  · rintro ⟨hne, hword, hrest⟩
    rw [hword] at hne hrest
    obtain ⟨gap, hgap, hs⟩ := exists_gap s
    exact ⟨gap, skipSpace s, hs, hgap, longestPrefix_iff.2 ⟨hword, hrest⟩, hne⟩
  · rintro ⟨gap, field, rfl, hgap, hlongest, hne⟩
    have hskip : skipSpace (gap ++ field) = field := by
      refine skipSpace_gap hgap fun c hc => ?_
      simpa using hlongest.forall_mem_head? hne c hc
    obtain ⟨hword, hrest⟩ := longestPrefix_iff.1 hlongest
    rw [hskip, hword]
    exact ⟨hne, rfl, hrest⟩

/-- A word that fills its width. -/
theorem scanWord_append {width : Nat} {word s : List Char} (hw : 0 < width)
    (hlen : word.length = width) (hword : ∀ c ∈ word, isspace c = false) :
    scanWord width (word ++ s) = some (word, s) := by
  refine scanWord_eq_some.2
    ⟨[], word ++ s, rfl, List.forall_mem_nil _, ⟨rfl, ?_, hlen.le, .inl hlen⟩, ?_⟩
  · intro c hc
    simp [hword c hc]
  · rintro rfl
    exact absurd hlen hw.ne

/-! ## `%<width>d` -/

/-- A sign, or none. -/
def IsSign (s : List Char) : Prop := s = [] ∨ s = ['+'] ∨ s = ['-']

/-- White space, a sign or none, and as many digits as there are up to the width. -/
def TakesInt (width : Nat) (s : List Char) (n : Int) (rest : List Char) : Prop :=
  ∃ gap sign field digits, s = gap ++ (sign ++ field) ∧ IsSpaces gap ∧ IsSign sign ∧
    LongestPrefix Char.isDigit (width - sign.length) field digits rest ∧ digits ≠ [] ∧
      n = withSign (sign = ['-']) (digitsValue 10 digits)

/-- Every text begins with a sign or with none. -/
theorem exists_sign (s : List Char) : ∃ sign field, IsSign sign ∧ s = sign ++ field ∧
    (sign = [] → ∀ c ∈ field.head?, c ≠ '+' ∧ c ≠ '-') := by
  cases s with
  | nil => exact ⟨[], [], .inl rfl, rfl, nofun⟩
  | cons c s =>
    rcases eq_or_ne c '+' with rfl | hplus
    · exact ⟨['+'], s, .inr (.inl rfl), rfl, nofun⟩
    rcases eq_or_ne c '-' with rfl | hminus
    · exact ⟨['-'], s, .inr (.inr rfl), rfl, nofun⟩
    · refine ⟨[], c :: s, .inl rfl, rfl, fun _ d hd => ?_⟩
      cases hd
      exact ⟨hplus, hminus⟩

/-- No digit is a sign. -/
theorem not_sign_of_isDigit {c : Char} (h : c.isDigit = true) : c ≠ '+' ∧ c ≠ '-' :=
  ⟨ne_of_isDigit h rfl, ne_of_isDigit h rfl⟩

/-- White space is skipped up to a sign, or up to a digit without one. -/
theorem skipSpace_sign {gap sign field : List Char} (hgap : IsSpaces gap) (hsign : IsSign sign)
    (hfield : ∀ c ∈ field.head?, c.isDigit = true) :
    skipSpace (gap ++ (sign ++ field)) = sign ++ field := by
  refine skipSpace_gap hgap fun c hc => ?_
  rcases hsign with rfl | rfl | rfl
  · exact isspace_of_isDigit (hfield c hc)
  · cases hc
    rfl
  · cases hc
    rfl

/-- Without a sign in front the number is not negative and nothing is taken. -/
theorem scanSign_of_head {s : List Char} (h : ∀ c ∈ s.head?, c ≠ '+' ∧ c ≠ '-') :
    scanSign s = (false, s) := by
  unfold scanSign
  split
  · exact absurd rfl (h _ rfl).2
  · exact absurd rfl (h _ rfl).1
  · rfl

/-- An integer is read after its sign, in what the sign leaves of the width. -/
theorem scanInt_sign {width : Nat} {s sign field : List Char} (hs : skipSpace s = sign ++ field)
    (hsign : IsSign sign) (hfield : sign = [] → ∀ c ∈ field.head?, c ≠ '+' ∧ c ≠ '-') :
    scanInt width s =
      let digits := (field.take (width - sign.length)).takeWhile Char.isDigit
      if digits = [] then none
      else some (withSign (sign = ['-']) (digitsValue 10 digits), field.drop digits.length) := by
  simp only [scanInt, hs]
  rcases hsign with rfl | rfl | rfl
  · have hhead : ∀ c ∈ (field.take width).head?, c ≠ '+' ∧ c ≠ '-' :=
      LongestPrefix.forall_mem_head?_take _ (hfield rfl)
    simp [scanSign_of_head hhead]
  · cases width with
    | zero => simp [scanSign]
    | succ k => simp [scanSign, Nat.add_comm 1]
  · cases width with
    | zero => simp [scanSign]
    | succ k => simp [scanSign, Nat.add_comm 1]

/-- `%Nd` takes the longest numeral that fits its width, sign included. -/
theorem scanInt_eq_some {width : Nat} {s rest : List Char} {n : Int} :
    scanInt width s = some (n, rest) ↔ TakesInt width s n rest := by
  constructor
  · intro h
    obtain ⟨gap, hgap, hs⟩ := exists_gap s
    obtain ⟨sign, field, hsign, hfield, hhead⟩ := exists_sign (skipSpace s)
    rw [scanInt_sign hfield hsign hhead] at h
    simp only [Option.ite_none_left_eq_some, Option.some.injEq, Prod.mk.injEq] at h
    obtain ⟨hne, hn, hrest⟩ := h
    exact ⟨gap, sign, field, _, hfield ▸ hs, hgap, hsign, longestPrefix_iff.2 ⟨rfl, hrest⟩, hne,
      hn.symm⟩
  · rintro ⟨gap, sign, field, digits, rfl, hgap, hsign, hlongest, hne, rfl⟩
    have hdigit := hlongest.forall_mem_head? hne
    have hskip := skipSpace_sign hgap hsign hdigit
    obtain ⟨hdigits, hrest⟩ := longestPrefix_iff.1 hlongest
    rw [scanInt_sign hskip hsign fun _ c hc => not_sign_of_isDigit (hdigit c hc)]
    simp only [hdigits, if_neg hne, hrest]

/-- An integer without a sign is read up to its width or its end. -/
theorem scanInt_digits {width : Nat} {s t : List Char} {c : Char} (hw : 0 < width) (hs : IsDigits s)
    (hc : c.isDigit = false) : scanInt width (s ++ c :: t) =
      some ((digitsValue 10 (s.take width) : Int), s.drop width ++ c :: t) := by
  refine scanInt_eq_some.2 ⟨[], [], s ++ c :: t, s.take width, rfl, List.forall_mem_nil _, .inl rfl,
    longestPrefix_append hs.2 hc, fun h => ?_, rfl⟩
  rcases List.take_eq_nil_iff.1 h with h | h
  · exact hw.ne' h
  · exact hs.1 h

/-- The sign counts. -/
theorem scanInt_minus {width : Nat} {s t : List Char} {c : Char} (hw : 1 < width) (hs : IsDigits s)
    (hc : c.isDigit = false) : scanInt width ('-' :: (s ++ c :: t)) =
      some (-(digitsValue 10 (s.take (width - 1)) : Int), s.drop (width - 1) ++ c :: t) := by
  refine scanInt_eq_some.2 ⟨[], ['-'], s ++ c :: t, s.take (width - 1), rfl, List.forall_mem_nil _,
    .inr (.inr rfl), longestPrefix_append hs.2 hc, fun h => ?_, rfl⟩
  rcases List.take_eq_nil_iff.1 h with h | h
  · omega
  · exact hs.1 h

/-- A padded integer that fits its width is read back. -/
theorem scanInt_padded {width : Nat} {n : Int} {t : List Char} {c : Char}
    (h : -10 ^ (width - 1) < n)
    (hn : n < 10 ^ width) (hw : 0 < width) (hc : c.isDigit = false) :
    scanInt width ((padded width n).toList ++ c :: t) = some (n, c :: t) := by
  rcases lt_or_ge n 0 with hneg | hpos
  · have hw1 : 0 < width - 1 := by
      by_contra hzero
      rw [Nat.eq_zero_of_not_pos hzero, pow_zero] at h
      omega
    have hlen : (padded (width - 1) (-n)).toList.length = width - 1 :=
      length_padded_of_lt (by omega) hw1 (by omega)
    rw [toList_padded_neg hneg, List.cons_append,
      scanInt_minus (by omega) (padded_isDigits (by omega)) hc, List.take_of_length_le hlen.le,
      List.drop_of_length_le hlen.le, digitsValue_padded (by omega), neg_neg]
    rfl
  · have hlen : (padded width n).toList.length = width := length_padded_of_lt hpos hw hn
    rw [scanInt_digits hw (padded_isDigits hpos) hc, List.take_of_length_le hlen.le,
      List.drop_of_length_le hlen.le, digitsValue_padded hpos]
    rfl

/-- An integer that does not fit its width leaves digits to what follows. -/
theorem scanInt_padded_of_not_fits {width : Nat} {n : Int} {t : List Char} {c : Char}
    (hw : 1 < width)
    (hn : 10 ^ width ≤ n ∨ n ≤ -10 ^ (width - 1)) (hc : c.isDigit = false) : ∃ m s,
      scanInt width ((padded width n).toList ++ c :: t) = some (m, s ++ c :: t) ∧ IsDigits s := by
  have hdrop : ∀ {k : Nat} {n : Int}, 0 < k → 10 ^ k ≤ n →
      IsDigits ((padded k n).toList.drop k) := by
    intro k n hk hn
    have h : 0 ≤ n := le_trans (by positivity) hn
    refine ⟨fun hnil => ?_, fun d hd => (padded_isDigits h).2 d (List.mem_of_mem_drop hd)⟩
    exact absurd (List.drop_eq_nil_iff.1 hnil) (Nat.not_le.2 (length_padded_of_le hk hn))
  rcases hn with hn | hn
  · have h : 0 ≤ n := le_trans (by positivity) hn
    exact ⟨_, _, scanInt_digits (by omega) (padded_isDigits h) hc, hdrop (by omega) hn⟩
  · have hpow : (0 : Int) < 10 ^ (width - 1) := by positivity
    rw [toList_padded_neg (by omega), List.cons_append]
    exact ⟨_, _, scanInt_minus hw (padded_isDigits (by omega)) hc, hdrop (by omega) (by omega)⟩

/-- A literal of the format does not match inside of an integer. -/
theorem scanLiteral_digits {c d : Char} {s t : List Char} (hs : ∀ c ∈ s, c.isDigit = true)
    (hc : c.isDigit = false) (hd : d ≠ c) : scanLiteral c (s ++ d :: t) = none := by
  cases s with
  | nil => exact if_neg hd
  | cons e s => exact if_neg (ne_of_isDigit (hs e (.head _)) hc)

end VitaleBackend
