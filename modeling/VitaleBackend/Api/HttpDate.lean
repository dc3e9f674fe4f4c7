import VitaleBackend.Cpp.Scan

/-!
# HTTP dates

`format_http_date` writes the IMF-fixdate of a time and `parse_http_date` reads one back. A year
that takes more than four characters is not read back: `%4d` stops inside of it, and the scan fails
at the next character.
-/

namespace VitaleBackend

/-- `kWeekdayNames` of `format_http_date`, indexed by `tm_wday`. -/
def kWeekdayNames : List String := ["Sun", "Mon", "Tue", "Wed", "Thu", "Fri", "Sat"]

/-- `kMonthNames`, which both functions use, indexed by `tm_mon`. -/
def kMonthNames : List String :=
  ["Jan", "Feb", "Mar", "Apr", "May", "Jun", "Jul", "Aug", "Sep", "Oct", "Nov", "Dec"]

/-- `format_http_date`. -/
def formatHttpDate (t : Int) : String :=
  let tm := gmtimeR t
  kWeekdayNames.getD tm.wday.toNat "" ++ ", " ++ padded 2 tm.mday ++ " " ++
    kMonthNames.getD tm.mon.toNat "" ++ " " ++ padded 4 (tm.year + 1900) ++ " " ++
    padded 2 tm.hour ++ ":" ++ padded 2 tm.min ++ ":" ++ padded 2 tm.sec ++ " GMT"

/-- `parse_http_date`. The seventh conversion is the last, so that `GMT` need not follow. -/
def parseHttpDate (value : String) : Option Int := do
  let (_, s) ← scanWord 3 (cStr value)
  let s ← scanLiteral ',' s
  let (mday, s) ← scanInt 2 (skipSpace s)
  let (month, s) ← scanWord 3 (skipSpace s)
  let (year, s) ← scanInt 4 (skipSpace s)
  let (hour, s) ← scanInt 2 (skipSpace s)
  let s ← scanLiteral ':' s
  let (min, s) ← scanInt 2 s
  let s ← scanLiteral ':' s
  let (sec, _) ← scanInt 2 s
  let mon ← kMonthNames.findIdx? (·.toList = month)
  return timegm { sec, min, hour, mday, mon, year := year - 1900, wday := 0 }

example : formatHttpDate 1787443200 = "Sun, 23 Aug 2026 00:00:00 GMT" := by decide +kernel
example : parseHttpDate "Sun, 23 Aug 2026 00:00:00 GMT" = some 1787443200 := by decide +kernel
example : parseHttpDate "Sunday, 23-Aug-26 00:00:00 GMT" = none := by decide +kernel

/-! ## The round trip -/

/-- The characters of a printed date, field by field. -/
theorem toList_formatHttpDate (t : Int) : (formatHttpDate t).toList =
    (kWeekdayNames.getD (gmtimeR t).wday.toNat "").toList ++ ',' :: ' ' ::
      ((padded 2 (gmtimeR t).mday).toList ++ ' ' ::
        ((kMonthNames.getD (gmtimeR t).mon.toNat "").toList ++ ' ' ::
          ((padded 4 ((gmtimeR t).year + 1900)).toList ++ ' ' ::
            ((padded 2 (gmtimeR t).hour).toList ++ ':' ::
              ((padded 2 (gmtimeR t).min).toList ++ ':' ::
                ((padded 2 (gmtimeR t).sec).toList ++ ' ' :: ['G', 'M', 'T'])))))) := by
  simp [formatHttpDate, String.toList_append]

/-- A word that `%3s` reads whole. -/
def isName (s : List Char) : Bool := s.length = 3 && s.all fun c => !isspace c && c ≠ '\x00'

/-- What `%3s` takes whole: three characters, none of them white space or NUL. -/
theorem isName_iff {s : List Char} :
    isName s = true ↔ s.length = 3 ∧ ∀ c ∈ s, isspace c = false ∧ c ≠ '\x00' := by
  simp [isName]

/-- `%3s` takes such a name and leaves what follows it. -/
theorem scanWord_name {s t : List Char} (hs : isName s = true) :
    scanWord 3 (s ++ t) = some (s, t) := by
  obtain ⟨hlen, hs⟩ := isName_iff.1 hs
  exact scanWord_append (by decide) hlen fun c hc => (hs c hc).1

/-- The names of the days are such names. -/
theorem weekday_name : ∀ i < 7, isName (kWeekdayNames.getD i "").toList = true := by
  decide

/-- The names of the months are such names too, and each is found at its own place in the table. -/
theorem month_name : ∀ i < 12, isName (kMonthNames.getD i "").toList = true ∧
    kMonthNames.findIdx? (fun m => m.toList = (kMonthNames.getD i "").toList) = some i := by
  decide

/-- A printed number has no NUL, so that `c_str()` does not end in it. -/
theorem ne_nul_of_mem_padded {width : Nat} {n : Int} {c : Char} (hc : c ∈ (padded width n).toList) :
    c ≠ '\x00' := by
  rcases isDigit_or_of_mem_padded hc with h | rfl
  · exact ne_of_isDigit h rfl
  · decide

/-- A formatted date is scanned to its end. -/
theorem cStr_formatHttpDate (t : Int) : cStr (formatHttpDate t) = (formatHttpDate t).toList := by
  obtain ⟨hwday0, hwday⟩ := gmtimeR_wday t
  obtain ⟨hmon0, hmon⟩ := gmtimeR_mon t
  have hweekday := (isName_iff.1 (weekday_name (gmtimeR t).wday.toNat (by omega))).2
  have hmonth := (isName_iff.1 (month_name (gmtimeR t).mon.toNat (by omega)).1).2
  refine cStr_of_forall fun c hc => ?_
  rw [toList_formatHttpDate] at hc
  simp only [List.mem_append, List.mem_cons, List.not_mem_nil, or_false] at hc
  rcases hc with hc | rfl | rfl | hc | rfl | hc | rfl | hc | rfl | hc | rfl | hc | rfl | hc | rfl |
    rfl | rfl | rfl
  case inl => exact (hweekday c hc).2
  case inr.inr.inr.inr.inr.inl => exact (hmonth c hc).2
  all_goals first | exact ne_nul_of_mem_padded hc | decide

/-- `timegm` on the fields that are read of a formatted date. -/
theorem timegm_scanned (t : Int) : timegm { gmtimeR t with
    mon := ((gmtimeR t).mon.toNat : Int)
    year := (gmtimeR t).year + 1900 - 1900
    wday := 0 } = t := by
  rw [Int.toNat_of_nonneg (gmtimeR_mon t).1, Int.add_sub_cancel]
  exact timegm_gmtimeR t 0

/-- A year that `%4d` reads whole. -/
def IsScannedYear (year : Int) : Prop := -10 ^ 3 < year ∧ year < 10 ^ 4

/-- Decided by its two bounds. -/
instance (year : Int) : Decidable (IsScannedYear year) := inferInstanceAs (Decidable (_ ∧ _))

/-- A date is read back when its year fits four characters, and refused otherwise. -/
theorem parseHttpDate_formatHttpDate (t : Int) : parseHttpDate (formatHttpDate t) =
    if IsScannedYear ((gmtimeR t).year + 1900) then some t else none := by
  obtain ⟨hwday0, hwday⟩ := gmtimeR_wday t
  obtain ⟨hmon0, hmon⟩ := gmtimeR_mon t
  obtain ⟨hmday0, hmday⟩ := gmtimeR_mday t
  obtain ⟨⟨hhour0, hhour⟩, ⟨hmin0, hmin⟩, hsec0, hsec⟩ := gmtimeR_clock t
  have hweekday := weekday_name (gmtimeR t).wday.toNat (by omega)
  obtain ⟨hmonth, hfind⟩ := month_name (gmtimeR t).mon.toNat (by omega)
  have hint : ∀ {n : Int} {t : List Char} {c : Char}, 0 ≤ n → n < 100 → c.isDigit = false →
      scanInt 2 ((padded 2 n).toList ++ c :: t) = some (n, c :: t) := fun h0 h1 hc =>
    scanInt_padded (by omega) (by omega) (by decide) hc
  have hblank : ' '.isDigit = false := rfl
  have hcolon : ':'.isDigit = false := rfl
  unfold parseHttpDate
  rw [cStr_formatHttpDate, toList_formatHttpDate, scanWord_name hweekday]
  simp only [Option.bind_eq_bind, Option.bind_some, scanLiteral_self, scanInt_skipSpace,
    scanWord_skipSpace, scanInt_blank, scanWord_blank, hint hmday0 hmday hblank,
    scanWord_name hmonth]
  split
  · next hyear =>
    rw [scanInt_padded hyear.1 hyear.2 (by decide) hblank]
    simp only [Option.bind_some, scanInt_blank, hint hhour0 hhour hcolon,
      hint hmin0 hmin hcolon, hint hsec0 hsec hblank, scanLiteral_self, hfind]
    exact congrArg some (timegm_scanned t)
  · next hyear =>
    have hnot : 10 ^ 4 ≤ (gmtimeR t).year + 1900 ∨ (gmtimeR t).year + 1900 ≤ -10 ^ (4 - 1) := by
      unfold IsScannedYear at hyear
      omega
    obtain ⟨year, s, hscan, hs⟩ := scanInt_padded_of_not_fits (by decide) hnot hblank
    have hrest : ∀ c ∈ s.drop 2, c.isDigit = true := fun c hc => hs.2 c (List.mem_of_mem_drop hc)
    rw [hscan]
    simp only [Option.bind_some, scanInt_digits (by decide : 0 < 2) hs hblank,
      scanLiteral_digits hrest hcolon (by decide : ' ' ≠ ':'), Option.bind_none]

/-- A date that is read back at all is read back as it was written. -/
theorem parseHttpDate_formatHttpDate_eq_some {s t : Int}
    (h : parseHttpDate (formatHttpDate t) = some s) : s = t := by
  rw [parseHttpDate_formatHttpDate] at h
  split at h
  · exact (Option.some.inj h).symm
  · cases h

end VitaleBackend
