import Mathlib.Data.List.TakeWhile
import VitaleBackend.Cpp.Number
import VitaleBackend.Lib.Calendar

/-!
# Broken-down times and their texts

`gmtime_r` and `timegm`, and the zero-padded integers with which the services write a time. A padded
integer followed by another character can be told from any other (`padded_append_inj`).
-/

namespace VitaleBackend

/-! ## `std::tm` -/

/-- `std::tm`: months from 0, years from 1900, days of the week from Sunday. -/
structure Tm where
  sec : Int
  min : Int
  hour : Int
  mday : Int
  mon : Int
  year : Int
  wday : Int
  deriving Repr, DecidableEq

/-- `gmtime_r`, of seconds since the epoch. -/
def gmtimeR (t : Int) : Tm :=
  let days := t / 86400
  let date := Calendar.civilFromDays days
  { sec := t % 60
    min := t / 60 % 60
    hour := t / 3600 % 24
    mday := date.day
    mon := date.month - 1
    year := date.year - 1900
    wday := (days + 4) % 7 }

/-- `timegm`: every field may be out of its range. -/
def timegm (tm : Tm) : Int :=
  86400 * Calendar.daysFromCivil ⟨tm.year + 1900 + tm.mon / 12, tm.mon % 12 + 1, tm.mday⟩ +
    3600 * tm.hour + 60 * tm.min + tm.sec

/-- `tm_mon` is the index of a month. -/
theorem gmtimeR_mon (t : Int) : 0 ≤ (gmtimeR t).mon ∧ (gmtimeR t).mon < 12 := by
  have h : 1 ≤ (Calendar.civilFromDays (t / 86400)).month ∧
    (Calendar.civilFromDays (t / 86400)).month ≤ 12 := Calendar.civilFromDays_month _
  simp only [gmtimeR]
  omega

/-- `tm_mday` is printed with two characters. -/
theorem gmtimeR_mday (t : Int) : 0 ≤ (gmtimeR t).mday ∧ (gmtimeR t).mday < 100 := by
  have h : 1 ≤ (Calendar.civilFromDays (t / 86400)).day ∧
    (Calendar.civilFromDays (t / 86400)).day ≤ 31 := Calendar.civilFromDays_day _
  simp only [gmtimeR]
  omega

/-- `tm_wday` is the index of a day. -/
theorem gmtimeR_wday (t : Int) : 0 ≤ (gmtimeR t).wday ∧ (gmtimeR t).wday < 7 := by
  simp only [gmtimeR]
  omega

/-- The year that is printed of a time since 1970 is not negative. -/
theorem gmtimeR_year {t : Int} (h : 0 ≤ t) : 0 ≤ (gmtimeR t).year + 1900 := by
  have hyear : 0 ≤ (Calendar.civilFromDays (t / 86400)).year :=
    Calendar.civilFromDays_year (Int.ediv_nonneg h (by decide))
  simp only [gmtimeR]
  omega

/-- The time of day is printed with two characters for each field. -/
theorem gmtimeR_clock (t : Int) :
    (0 ≤ (gmtimeR t).hour ∧ (gmtimeR t).hour < 100) ∧
      (0 ≤ (gmtimeR t).min ∧ (gmtimeR t).min < 100) ∧
      0 ≤ (gmtimeR t).sec ∧ (gmtimeR t).sec < 100 := by
  simp only [gmtimeR]
  omega

/-- `timegm` takes back what `gmtime_r` gives, whatever the day of the week says. -/
theorem timegm_gmtimeR (t wday : Int) : timegm { gmtimeR t with wday } = t := by
  obtain ⟨h0, h1⟩ := gmtimeR_mon t
  have hdate : (⟨(gmtimeR t).year + 1900 + (gmtimeR t).mon / 12, (gmtimeR t).mon % 12 + 1,
      (gmtimeR t).mday⟩ : Calendar.Civil) = Calendar.civilFromDays (t / 86400) := by
    rw [Int.ediv_eq_zero_of_lt h0 h1, Int.emod_eq_of_lt h0 h1]
    simp [gmtimeR]
  simp only [timegm, hdate, Calendar.daysFromCivil_civilFromDays]
  simp only [gmtimeR]
  omega

/-! ## `snprintf` -/

/-- `%0*d`. -/
def padded (width : Nat) (n : Int) : String :=
  if 0 ≤ n then .ofList ((Nat.toDigits 10 n.toNat).leftpad width '0')
  else .ofList ('-' :: (Nat.toDigits 10 n.natAbs).leftpad (width - 1) '0')

/-- Some decimal digits. -/
def IsDigits (s : List Char) : Prop := s ≠ [] ∧ ∀ c ∈ s, c.isDigit = true

/-- A digit is not another kind of character. -/
theorem ne_of_isDigit {c d : Char} (hc : c.isDigit = true) (hd : d.isDigit = false) : c ≠ d := by
  rintro rfl
  rw [hc] at hd
  cases hd

/-- The value of a numeral of digits only is the one that Lean gives it. -/
theorem digitsValue_of_isDigits {s : List Char} (h : IsDigits s) :
    digitsValue 10 s = Nat.ofDigitChars 10 s 0 := by
  have hfold : ∀ (s : List Char) (n : Nat), (∀ c ∈ s, c.isDigit = true) →
      s.foldl (fun n c => 10 * n + digitValue c) n = Nat.ofDigitChars 10 s n := by
    intro s
    induction s with
    | nil => exact fun _ _ => rfl
    | cons c s ih =>
      intro n hs
      obtain ⟨hc, hs⟩ := List.forall_mem_cons.1 hs
      rw [List.foldl_cons, ih _ hs, Nat.ofDigitChars_cons, digitValue, if_pos hc]
      rfl
  exact hfold s 0 h.2

section
variable {width : Nat} {n : Int}

/-- A number that is not negative is printed as its digits, with zeros in front. -/
theorem toList_padded (h : 0 ≤ n) :
    (padded width n).toList = (Nat.toDigits 10 n.toNat).leftpad width '0' := by
  rw [padded, if_pos h, String.toList_ofList]

/-- So what is printed of it are digits. -/
theorem padded_isDigits (h : 0 ≤ n) : IsDigits (padded width n).toList := by
  rw [toList_padded h, List.leftpad]
  refine ⟨fun hnil => Nat.toDigits_ne_nil (List.append_eq_nil_iff.1 hnil).2, fun c hc => ?_⟩
  rcases List.mem_append.1 hc with hc | hc
  · rw [(List.mem_replicate.1 hc).2]
    rfl
  · exact Nat.isDigit_of_mem_toDigits (by decide) (by decide) hc

/-- The digits of a padded integer denote it. -/
theorem digitsValue_padded (h : 0 ≤ n) : digitsValue 10 (padded width n).toList = n := by
  rw [digitsValue_of_isDigits (padded_isDigits h), toList_padded h, List.leftpad,
    Nat.ofDigitChars_append, Nat.ofDigitChars_replicate_zero, Nat.mul_zero,
    Nat.ofDigitChars_toDigits (by decide) (by decide)]
  exact Int.toNat_of_nonneg h

/-- An integer that fits the width fills it. -/
theorem length_padded_of_lt (h : 0 ≤ n) (hw : 0 < width) (hn : n < 10 ^ width) :
    (padded width n).toList.length = width := by
  have hlen : (Nat.toDigits 10 n.toNat).length ≤ width :=
    (Nat.length_toDigits_le_iff (by decide) hw).2 (by
      rw [Int.toNat_lt h]
      exact_mod_cast hn)
  rw [toList_padded h, List.length_leftpad, Nat.max_eq_left hlen]

/-- An integer that does not fit the width exceeds it. -/
theorem length_padded_of_le (hw : 0 < width) (hn : 10 ^ width ≤ n) :
    width < (padded width n).toList.length := by
  have h : 0 ≤ n := le_trans (by positivity) hn
  have hlen : width < (Nat.toDigits 10 n.toNat).length := by
    by_contra hle
    have hlt := (Nat.length_toDigits_le_iff (by decide) hw).1 (Nat.not_lt.1 hle)
    rw [Int.toNat_lt h] at hlt
    exact absurd hlt (by exact_mod_cast Int.not_lt.2 hn)
  rw [toList_padded h, List.length_leftpad]
  exact lt_of_lt_of_le hlen (Nat.le_max_right _ _)

end

/-- Where digits end is seen at the first other character. -/
theorem digits_append_inj {s s' t t' : List Char} {c : Char} (hs : IsDigits s) (hs' : IsDigits s')
    (hc : c.isDigit = false) (h : s ++ c :: t = s' ++ c :: t') : s = s' ∧ t = t' := by
  have htake : ∀ {s t : List Char}, IsDigits s → (s ++ c :: t).takeWhile Char.isDigit = s := by
    intro s t hs
    rw [List.takeWhile_append_of_pos hs.2, List.takeWhile_cons, hc]
    simp
  have heq : s = s' := by rw [← htake (t := t) hs, h, htake hs']
  subst heq
  exact ⟨rfl, (List.cons.inj (List.append_cancel_left h)).2⟩

/-- A negative integer is a sign and a padded number. -/
theorem toList_padded_neg {width : Nat} {n : Int} (h : n < 0) :
    (padded width n).toList = '-' :: (padded (width - 1) (-n)).toList := by
  have hnat : (-n).toNat = n.natAbs := by omega
  rw [padded, if_neg (Int.not_le.2 h), String.toList_ofList, toList_padded (by omega), hnat]

/-- A padded integer is written with digits and a sign. -/
theorem isDigit_or_of_mem_padded {width : Nat} {n : Int} {c : Char}
    (hc : c ∈ (padded width n).toList) :
    c.isDigit = true ∨ c = '-' := by
  rcases lt_or_ge n 0 with hn | hn
  · rw [toList_padded_neg hn, List.mem_cons] at hc
    exact hc.elim .inr fun hc => .inl ((padded_isDigits (by omega)).2 c hc)
  · exact .inl ((padded_isDigits hn).2 c hc)

/-- A padded integer and what follows it are told from the text. -/
theorem padded_append_inj {width : Nat} {m n : Int} {c : Char} {t t' : List Char}
    (hc : c.isDigit = false)
    (h : (padded width m).toList ++ c :: t = (padded width n).toList ++ c :: t') :
    m = n ∧ t = t' := by
  have hnat : ∀ {width : Nat} {m n : Int}, 0 ≤ m → 0 ≤ n →
      (padded width m).toList ++ c :: t = (padded width n).toList ++ c :: t' → m = n ∧ t = t' := by
    intro width m n hm hn h
    obtain ⟨hs, ht⟩ := digits_append_inj (padded_isDigits hm) (padded_isDigits hn) hc h
    exact ⟨by rw [← digitsValue_padded hm, hs, digitsValue_padded hn], ht⟩
  -- digits do not begin with a sign
  have hsign : ∀ {width : Nat} {m : Int} {s s' : List Char}, 0 ≤ m →
      (padded width m).toList ++ s ≠ '-' :: s' := by
    intro width m s s' hm h
    obtain ⟨hne, hdigits⟩ := @padded_isDigits width m hm
    obtain ⟨d, ds, hds⟩ := List.exists_cons_of_ne_nil hne
    rw [hds, List.cons_append, List.cons.injEq] at h
    exact ne_of_isDigit (hdigits d (hds ▸ .head _)) rfl h.1
  rcases lt_or_ge m 0 with hm | hm <;> rcases lt_or_ge n 0 with hn | hn
  · rw [toList_padded_neg hm, toList_padded_neg hn, List.cons_append, List.cons_append,
      List.cons.injEq] at h
    obtain ⟨hneg, ht⟩ := hnat (by omega) (by omega) h.2
    exact ⟨neg_inj.1 hneg, ht⟩
  · rw [toList_padded_neg hm, List.cons_append] at h
    exact absurd h.symm (hsign hn)
  · rw [toList_padded_neg hn, List.cons_append] at h
    exact absurd h (hsign hm)
  · exact hnat hm hn h

end VitaleBackend
