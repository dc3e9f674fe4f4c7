import VitaleBackend.Cpp.Scan

/-!
# Decimal numerals

`BeginsWithInt` says which numeral a text begins with. `strtol` finds it (`strtol_eq_some`), and
`stoi` and `stoll` convert it when it fits (`stoi_eq_ok`, `stoll_eq_ok`): none of them looks at what
follows. `Spells` is the numeral that a text is as a whole.
-/

namespace VitaleBackend

/-- White space, a sign or none, and digits up to the next character that is none. -/
def BeginsWithInt (s : List Char) (n : Int) (rest : List Char) : Prop :=
  ∃ gap sign digits, s = gap ++ (sign ++ (digits ++ rest)) ∧ IsSpaces gap ∧ IsSign sign ∧
    IsDigits digits ∧ (∀ c ∈ rest.head?, c.isDigit = false) ∧
      n = withSign (sign = ['-']) (digitsValue 10 digits)

/-- A text that is a decimal numeral as a whole, white space around it aside. -/
def Spells (s : List Char) (n : Int) : Prop :=
  ∃ before sign digits after, s = before ++ (sign ++ (digits ++ after)) ∧ IsSpaces before ∧
    IsSign sign ∧ IsDigits digits ∧ IsSpaces after ∧
      n = withSign (sign = ['-']) (digitsValue 10 digits)

section
variable {s rest : List Char} {n : Int}

/-- A width that the text does not fill takes the whole numeral. -/
theorem takesInt_length : TakesInt s.length s n rest ↔ BeginsWithInt s n rest := by
  constructor
  · rintro ⟨gap, sign, field, digits, rfl, hgap, hsign, hlongest, hne, hn⟩
    obtain ⟨rfl, hdigits, hle, hmax⟩ := hlongest
    refine ⟨gap, sign, digits, rfl, hgap, hsign, ⟨hne, hdigits⟩, ?_, hn⟩
    rcases hmax with hfull | hhead
    · have hrest : rest = [] := by
        rw [← List.length_eq_zero_iff]
        simp only [List.length_append] at hfull
        omega
      subst hrest
      exact nofun
    · exact hhead
  · rintro ⟨gap, sign, digits, rfl, hgap, hsign, ⟨hne, hdigits⟩, hrest, hn⟩
    refine ⟨gap, sign, _, digits, rfl, hgap, hsign, ⟨rfl, hdigits, ?_, .inr hrest⟩, hne, hn⟩
    simp only [List.length_append]
    omega

/-- A scan that is as wide as the text takes any numeral that the text begins with. -/
theorem scanInt_length : scanInt s.length s = some (n, rest) ↔ BeginsWithInt s n rest :=
  scanInt_eq_some.trans takesInt_length

/-- What follows the numeral is told from the text. -/
theorem BeginsWithInt.unique {m : Int} {rest' : List Char} (h : BeginsWithInt s n rest)
    (h' : BeginsWithInt s m rest') : n = m ∧ rest = rest' := by
  have heq := (scanInt_length.2 h).symm.trans (scanInt_length.2 h')
  simpa using heq

/-- `strtol` is such a scan: no width ends it. -/
theorem strtol_eq_scanInt (s : List Char) : strtol s = (scanInt s.length s).map (·.1) := by
  have htake : (skipSpace s).take s.length = skipSpace s :=
    List.take_of_length_le (List.dropWhile_suffix isspace).length_le
  simp only [scanInt, htake, apply_ite (Option.map fun r : Int × List Char => r.1)]
  rfl

/-- `strtol` finds a numeral exactly when the text begins with one. -/
theorem strtol_eq_some : strtol s = some n ↔ ∃ rest, BeginsWithInt s n rest := by
  rw [strtol_eq_scanInt, Option.map_eq_some_iff]
  constructor
  · rintro ⟨⟨m, rest⟩, h, rfl⟩
    exact ⟨rest, scanInt_length.1 h⟩
  · rintro ⟨rest, h⟩
    exact ⟨(n, rest), scanInt_length.2 h, rfl⟩

/-- White space begins with no digit. -/
theorem IsSpaces.head? (h : IsSpaces s) : ∀ c ∈ s.head?, c.isDigit = false := by
  intro c hc
  by_contra hdigit
  have hspace := h c (List.mem_of_mem_head? hc)
  rw [isspace_of_isDigit (Bool.eq_true_of_not_eq_false hdigit)] at hspace
  cases hspace

/-- A text spells a number when it begins with its numeral and has nothing but white space behind
it. -/
theorem spells_iff : Spells s n ↔ ∃ rest, BeginsWithInt s n rest ∧ IsSpaces rest := by
  constructor
  · rintro ⟨before, sign, digits, after, hs, hbefore, hsign, hdigits, hafter, hn⟩
    exact ⟨after, ⟨before, sign, digits, hs, hbefore, hsign, hdigits, hafter.head?, hn⟩, hafter⟩
  · rintro ⟨rest, ⟨gap, sign, digits, hs, hgap, hsign, hdigits, -, hn⟩, hrest⟩
    exact ⟨gap, sign, digits, rest, hs, hgap, hsign, hdigits, hrest, hn⟩

/-- A text that begins with a numeral spells it when nothing but white space follows. -/
theorem BeginsWithInt.spells_iff (h : BeginsWithInt s n rest) : Spells s n ↔ IsSpaces rest := by
  rw [VitaleBackend.spells_iff]
  constructor
  · rintro ⟨rest', h', hspaces⟩
    rwa [(h.unique h').2]
  · exact fun hspaces => ⟨rest, h, hspaces⟩

/-- What is left after a sign, and which sign it was. -/
theorem scanSign_spec (s : List Char) : ∃ sign, IsSign sign ∧ s = sign ++ (scanSign s).2 ∧
    (scanSign s).1 = decide (sign = ['-']) := by
  unfold scanSign
  split
  · exact ⟨['-'], .inr (.inr rfl), rfl, rfl⟩
  · exact ⟨['+'], .inr (.inl rfl), rfl, rfl⟩
  · exact ⟨[], .inl rfl, rfl, rfl⟩

/-- A sign before digits is read as one. -/
theorem scanSign_digits {sign digits : List Char} (hsign : IsSign sign)
    (hdigits : IsDigits digits) :
    scanSign (sign ++ (digits ++ rest)) = (decide (sign = ['-']), digits ++ rest) := by
  rcases hsign with rfl | rfl | rfl
  · obtain ⟨d, ds, rfl⟩ := List.exists_cons_of_ne_nil hdigits.1
    refine scanSign_of_head fun c hc => ?_
    cases hc
    exact not_sign_of_isDigit (hdigits.2 d (.head _))
  · rfl
  · rfl

end

/-! ## The conversions -/

/-- A range check passes the value on. -/
theorem ite_eq_ok {P : Int → Prop} [DecidablePred P] {m n : Int} {e : Exn} :
    (if P m then Except.ok m else .error e) = .ok n ↔ P n ∧ m = n := by
  split <;> rename_i hm
  · constructor
    · rintro ⟨⟩
      exact ⟨hm, rfl⟩
    · rintro ⟨-, rfl⟩
      rfl
  · refine ⟨nofun, ?_⟩
    rintro ⟨hn, rfl⟩
    exact absurd hn hm

section
variable {s : String} {n : Int}

/-- `std::stoi` returns exactly the numbers that the text begins with and that an `int` holds. What
follows the numeral is not looked at. -/
theorem stoi_eq_ok : stoi s = .ok n ↔ IsInt32 n ∧ ∃ rest, BeginsWithInt s.toList n rest := by
  rw [← strtol_eq_some, stoi]
  cases strtol s.toList with
  | none => simp
  | some m => simpa using ite_eq_ok

/-- The same of `std::stoll` and a `long long`. -/
theorem stoll_eq_ok : stoll s = .ok n ↔ IsInt64 n ∧ ∃ rest, BeginsWithInt s.toList n rest := by
  rw [← strtol_eq_some, stoll]
  cases strtol s.toList with
  | none => simp
  | some m => simpa using ite_eq_ok

end

/-- `atoi` of glibc: `strtol`, which saturates, cut to an `int`; zero when no digit is there. -/
def atoi (s : String) : Int :=
  match strtol s.toList with
  | none => 0
  | some n => (max (-2 ^ 63) (min n (2 ^ 63 - 1))).bmod (2 ^ 32)

/-- A numeral of 64 bits counts by its low 32 bits, of which the first is the sign, and any other is
not positive. -/
theorem atoi_eq {s : String} {n : Int} {rest : List Char} (h : BeginsWithInt s.toList n rest) :
    atoi s = if IsInt64 n then n % 2 ^ 32 - (if 2 ^ 31 ≤ n % 2 ^ 32 then 2 ^ 32 else 0)
      else if n < 0 then 0 else -1 := by
  rw [atoi, strtol_eq_some.2 ⟨rest, h⟩]
  dsimp only
  rw [Int.bmod_eq_emod]
  unfold IsInt64
  split_ifs <;> omega

/-- `atoi` makes zero of a text that begins with no numeral. -/
theorem atoi_eq_zero {s : String} (h : ∀ n rest, ¬ BeginsWithInt s.toList n rest) : atoi s = 0 := by
  have hnone : strtol s.toList = none := by
    cases hn : strtol s.toList with
    | none => rfl
    | some n =>
      obtain ⟨rest, hrest⟩ := strtol_eq_some.1 hn
      exact absurd hrest (h n rest)
  rw [atoi, hnone]

/-! ## Integers in decimal -/

/-- A printed integer is padded to no width. -/
theorem toList_toString (n : Int) : (toString n).toList = (padded 0 n).toList := by
  rw [Int.toString_eq_repr, Int.repr_eq_if]
  split <;> rename_i h
  · rw [toList_padded h, Nat.toList_repr]
    simp [List.leftpad]
  · have hnat : (-n).toNat = n.natAbs := by omega
    rw [padded, if_neg h, String.toList_ofList, String.toList_append, Nat.toList_repr, hnat]
    simp [List.leftpad]

/-- An integer in decimal is a numeral to its end. -/
theorem beginsWithInt_toString (n : Int) : BeginsWithInt (toString n).toList n [] := by
  rw [toList_toString]
  rcases lt_or_ge n 0 with hneg | hpos
  · have hvalue : (digitsValue 10 (padded (0 - 1) (-n)).toList : Int) = -n :=
      digitsValue_padded (by omega)
    refine ⟨[], ['-'], (padded (0 - 1) (-n)).toList, ?_, List.forall_mem_nil _, .inr (.inr rfl),
      padded_isDigits (by omega), nofun, ?_⟩
    · rw [toList_padded_neg hneg, List.append_nil]
      rfl
    · exact (neg_eq_iff_eq_neg.2 hvalue).symm
  · have hvalue : (digitsValue 10 (padded 0 n).toList : Int) = n := digitsValue_padded hpos
    refine ⟨[], [], (padded 0 n).toList, ?_, List.forall_mem_nil _, .inl rfl, padded_isDigits hpos,
      nofun, hvalue.symm⟩
    rw [List.append_nil]
    rfl

/-- An `int` that is printed is read back. -/
theorem stoi_toString {n : Int} (h : IsInt32 n) : stoi (toString n) = .ok n :=
  stoi_eq_ok.2 ⟨h, [], beginsWithInt_toString n⟩

/-- So is a `long long`. -/
theorem stoll_toString {n : Int} (h : IsInt64 n) : stoll (toString n) = .ok n :=
  stoll_eq_ok.2 ⟨h, [], beginsWithInt_toString n⟩

end VitaleBackend
