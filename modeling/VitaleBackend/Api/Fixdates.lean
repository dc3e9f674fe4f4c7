import VitaleBackend.Api.Catalog

/-!
# Which dates are honoured

`If-Modified-Since` is to be an IMF-fixdate, the text that `format_http_date` writes of a time, and
any other value is to be as good as none. `parse_http_date` takes more than that: `Scannable` is the
form that its conversions accept. `onlyFixdates_iff` says of which values nothing else is honoured.
-/

namespace VitaleBackend

/-! ## What is accepted -/

/-- A text that the seven conversions take: a name of a month, integers of a bounded width, white
space of any length before each, and any text after the seconds. -/
inductive Scannable : List Char → Prop where
  | intro {s s₁ s₂ s₃ s₄ s₅ s₆ s₇ weekday month : List Char} {mday year hour min sec : Int}
    (hweekday : TakesWord 3 s weekday (',' :: s₁)) (hmday : TakesInt 2 s₁ mday s₂)
    (hmonth : TakesWord 3 s₂ month s₃) (hname : String.ofList month ∈ kMonthNames)
    (hyear : TakesInt 4 s₃ year s₄) (hhour : TakesInt 2 s₄ hour (':' :: s₅))
    (hmin : TakesInt 2 s₅ min (':' :: s₆)) (hsec : TakesInt 2 s₆ sec s₇) : Scannable s

section
variable {value : String} {t : Int}

/-- The table of months finds a text exactly when it is one of the twelve names. -/
theorem isSome_findIdx?_kMonthNames {month : List Char} :
    (kMonthNames.findIdx? (·.toList = month)).isSome = true ↔
      String.ofList month ∈ kMonthNames := by
  rw [List.findIdx?_isSome, List.any_eq_true]
  constructor
  · rintro ⟨name, hname, hmonth⟩
    rwa [← of_decide_eq_true hmonth, String.ofList_toList]
  · exact fun h => ⟨_, h, decide_eq_true String.toList_ofList⟩

/-- A date that `parse_http_date` takes went through all seven conversions of `sscanf`, and its
month is in the table. -/
theorem scannable_of_parseHttpDate (h : parseHttpDate value = some t) : Scannable (cStr value) := by
  simp only [parseHttpDate, Option.bind_eq_bind, Option.bind_eq_some_iff, scanInt_skipSpace,
    scanWord_skipSpace] at h
  obtain ⟨⟨_, _⟩, hweekday, _, hcomma, ⟨_, _⟩, hmday, ⟨_, _⟩, hmonth, ⟨_, _⟩, hyear, ⟨_, _⟩, hhour,
    _, hcolon, ⟨_, _⟩, hmin, _, hcolon', ⟨_, _⟩, hsec, _, hname, -⟩ := h
  rw [scanLiteral_eq_some] at hcomma hcolon hcolon'
  subst hcomma hcolon hcolon'
  exact .intro (scanWord_eq_some.1 hweekday) (scanInt_eq_some.1 hmday) (scanWord_eq_some.1 hmonth)
    (isSome_findIdx?_kMonthNames.1 (Option.isSome_of_mem hname)) (scanInt_eq_some.1 hyear)
    (scanInt_eq_some.1 hhour) (scanInt_eq_some.1 hmin) (scanInt_eq_some.1 hsec)

/-- Whatever goes through them is taken: `timegm` normalises any day and any time of day. -/
theorem exists_parseHttpDate (h : Scannable (cStr value)) : ∃ t, parseHttpDate value = some t := by
  cases h with
  | intro hweekday hmday hmonth hname hyear hhour hmin hsec =>
    obtain ⟨mon, hmon⟩ := Option.isSome_iff_exists.1 (isSome_findIdx?_kMonthNames.2 hname)
    rw [← scanWord_eq_some] at hweekday hmonth
    rw [← scanInt_eq_some] at hmday hyear hhour hmin hsec
    refine Option.isSome_iff_exists.1 ?_
    simp only [parseHttpDate, Option.bind_eq_bind, scanInt_skipSpace, scanWord_skipSpace, hweekday,
      Option.bind_some, scanLiteral_self, hmday, hmonth, hyear, hhour, hmin, hsec, hmon]
    rfl

/-- A value that is not of the form is no date. -/
theorem parseHttpDate_eq_none (h : ¬ Scannable (cStr value)) : parseHttpDate value = none :=
  Option.eq_none_iff_forall_ne_some.2 fun _ ht => h (scannable_of_parseHttpDate ht)

end

/-! ## IMF-fixdates -/

/-- The IMF-fixdate of a date and a time of day. -/
def imfFixdate (date : Calendar.Civil) (hour min sec : Int) : String :=
  kWeekdayNames.getD ((Calendar.daysFromCivil date + 4) % 7).toNat "" ++ ", " ++
    padded 2 date.day ++ " " ++ kMonthNames.getD (date.month - 1).toNat "" ++ " " ++
    padded 4 date.year ++ " " ++ padded 2 hour ++ ":" ++ padded 2 min ++ ":" ++ padded 2 sec ++
    " GMT"

/-- A time of day. -/
structure IsTimeOfDay (hour min sec : Int) : Prop where
  hour : 0 ≤ hour ∧ hour < 24
  min : 0 ≤ min ∧ min < 60
  sec : 0 ≤ sec ∧ sec < 60

/-- The IMF-fixdate of a day that exists, with its day of the week, and of a time of that day. -/
def IsImfFixdate (value : String) : Prop :=
  ∃ date hour min sec, Calendar.Civil.Valid date ∧ IsTimeOfDay hour min sec ∧
    value = imfFixdate date hour min sec

/-- The dates that the handler prints are of the one form that RFC 9110 asks senders for. -/
theorem formatHttpDate_eq_imfFixdate (t : Int) : formatHttpDate t =
    imfFixdate (Calendar.civilFromDays (t / 86400)) (t / 3600 % 24) (t / 60 % 60) (t % 60) := by
  simp only [formatHttpDate, imfFixdate, gmtimeR, Calendar.daysFromCivil_civilFromDays,
    Int.sub_add_cancel]

/-- The IMF-fixdates are what `format_http_date` writes. -/
theorem isImfFixdate_iff {value : String} : IsImfFixdate value ↔ ∃ t, value = formatHttpDate t := by
  constructor
  · rintro ⟨date, hour, min, sec, hdate, ⟨hhour, hmin, hsec⟩, rfl⟩
    refine ⟨86400 * Calendar.daysFromCivil date + 3600 * hour + 60 * min + sec, ?_⟩
    generalize hdays : Calendar.daysFromCivil date = days
    have hday : (86400 * days + 3600 * hour + 60 * min + sec) / 86400 = days := by omega
    have hhour' : (86400 * days + 3600 * hour + 60 * min + sec) / 3600 % 24 = hour := by omega
    have hmin' : (86400 * days + 3600 * hour + 60 * min + sec) / 60 % 60 = min := by omega
    have hsec' : (86400 * days + 3600 * hour + 60 * min + sec) % 60 = sec := by omega
    rw [formatHttpDate_eq_imfFixdate, hday, hhour', hmin', hsec', ← hdays,
      Calendar.civilFromDays_daysFromCivil hdate]
  · rintro ⟨t, rfl⟩
    refine ⟨_, _, _, _, Calendar.civilFromDays_valid _, ?_, formatHttpDate_eq_imfFixdate t⟩
    constructor
    all_goals omega

/-! ## What a value is taken for -/

/-- The value is taken for no other time than the one that it is the IMF-fixdate of, and when there
is none, it is as good as none and yields no 304. -/
structure OnlyFixdates (value : String) : Prop where
  date : ∀ t, parseHttpDate value = some t → value = formatHttpDate t
  missing : (∀ t, value ≠ formatHttpDate t) → ∀ X ifNoneMatch conn db,
    catalog X ⟨ifNoneMatch, value⟩ conn db = catalog X ⟨ifNoneMatch, ""⟩ conn db
  modified : (∀ t, value ≠ formatHttpDate t) → ∀ X now db headers,
    catalog X ⟨"", value⟩ (.ok now) db ≠ .notModified headers

/-- A value that is no date is as good as none. -/
theorem notModified_of_parse_eq_none {value ifNoneMatch : String} {info : CatalogMeta}
    (h : parseHttpDate value = none) :
    notModified ⟨ifNoneMatch, value⟩ info = notModified ⟨ifNoneMatch, ""⟩ info := by
  simp [notModified, h]

/-- Nothing but an IMF-fixdate is honoured of a value exactly when it is an IMF-fixdate, or not of
the form that is accepted. -/
theorem onlyFixdates_iff (value : String) :
    OnlyFixdates value ↔ IsImfFixdate value ∨ ¬ Scannable (cStr value) := by
  constructor
  · intro h
    refine or_iff_not_imp_right.2 fun hscan => ?_
    obtain ⟨t, ht⟩ := exists_parseHttpDate (not_not.1 hscan)
    exact isImfFixdate_iff.2 ⟨t, h.date t ht⟩
  · rintro (hfixdate | hscan)
    · obtain ⟨t, rfl⟩ := isImfFixdate_iff.1 hfixdate
      refine ⟨fun s hs => ?_, fun hne => absurd rfl (hne t), fun hne => absurd rfl (hne t)⟩
      rw [parseHttpDate_formatHttpDate_eq_some hs]
    · have hnone := parseHttpDate_eq_none hscan
      refine ⟨fun t ht => ?_, fun _ X ifNoneMatch conn db => ?_, fun _ X now db headers h => ?_⟩
      · rw [hnone] at ht
        cases ht
      · cases conn with
        | error e => rfl
        | ok now =>
          simp only [catalog, catalogResponse, notModified_of_parse_eq_none hnone]
      · have hmodified := catalog_notModified.1 ⟨headers, h⟩
        rw [notModified_of_parse_eq_none hnone] at hmodified
        cases hmodified

/-- A date of another time zone is taken for the same date in GMT. -/
theorem not_onlyFixdatesHonoured : ¬ ∀ value, OnlyFixdates value := by
  intro h
  have hparse : parseHttpDate "Sun, 23 Aug 2026 00:00:00 PST" = some 1787443200 := by decide +kernel
  exact absurd ((h _).date _ hparse) (by decide +kernel)

end VitaleBackend
