import VitaleBackend.Api.Objects
import VitaleBackend.Cpp.Numeral

/-!
# The top-N lists

`/objects/popular` and `/objects/top-events` read their `limit` with `atoi`, which takes the numeral
that a text begins with and keeps its low 32 bits. So `limit` means what it spells exactly when
these bits say the same as the text (`limitMeant_iff`).
-/

namespace VitaleBackend

open Relational

/-! ## The handlers -/

/-- `kDefaultTopNLimit`, for a request without a limit. -/
def kDefaultTopNLimit : Int := 10

/-- `kMaxTopNLimit`, for a request with a larger one. -/
def kMaxTopNLimit : Int := 100

/-- The responses of both handlers: 400, 200 or 500. -/
inductive TopNResponse where
  | badRequest (error : String)
  | ok (objects : List Json)
  | internalError (error : String)

/-- What a handler does: the `LIMIT` of its query, if it gets to one, and its response. -/
structure TopNAnswer where
  queryLimit : Option Nat
  response : TopNResponse

/-- The `try` block: `conn` is the exception of its connection, if there is one, and `select` the
query with its rows as JSON. -/
def runTopN (select : Nat → List Json) (limit : Nat) (conn : Except Exn Unit) : TopNAnswer :=
  match conn with
  | .ok () => ⟨some limit, .ok (select limit)⟩
  | .error e => ⟨none, .internalError e.what⟩

/-- The answer to a limit that is refused. -/
def limitRefused : TopNAnswer := ⟨none, .badRequest "'limit' must be a positive integer"⟩

/-- What the two handlers have in common. -/
def topN (select : Nat → List Json) (limitParam : Option String) (conn : Except Exn Unit) :
    TopNAnswer :=
  match limitParam with
  | none => runTopN select kDefaultTopNLimit.toNat conn
  | some s =>
    if atoi s ≤ 0 then limitRefused
    else runTopN select (min (atoi s) kMaxTopNLimit).toNat conn

/-- `ORDER BY hit_count DESC, norad_cat_id ASC`. -/
def mostHitsFirst (a b : ObjectRow) : Prop :=
  b.hitCount < a.hitCount ∨ (a.hitCount = b.hitCount ∧ a.noradCatId ≤ b.noradCatId)

/-- Decided by comparing hits and numbers. -/
instance : DecidableRel mostHitsFirst := fun a b =>
  inferInstanceAs (Decidable
    (b.hitCount < a.hitCount ∨ (a.hitCount = b.hitCount ∧ a.noradCatId ≤ b.noradCatId)))

/-- The objects of `/objects/popular`. -/
def popularObjects (X : Externals) (db : Database) (limit : Nat) : List Json :=
  (firstBy mostHitsFirst limit db.objects.rows).map (objectRowToJson X)

/-- `COUNT(e.id)` over the events of an object. -/
def eventCount (db : Database) (row : ObjectRow) : Nat :=
  (db.audtEvents.filter (·.noradCatId = row.noradCatId)).length

/-- `ORDER BY event_count DESC, norad_cat_id ASC`. -/
def mostEventsFirst (db : Database) (a b : ObjectRow) : Prop :=
  eventCount db b < eventCount db a ∨
    (eventCount db a = eventCount db b ∧ a.noradCatId ≤ b.noradCatId)

/-- Decided by comparing counts of events and numbers. -/
instance (db : Database) : DecidableRel (mostEventsFirst db) := fun a b =>
  inferInstanceAs (Decidable (eventCount db b < eventCount db a ∨
    (eventCount db a = eventCount db b ∧ a.noradCatId ≤ b.noradCatId)))

/-- The objects of `/objects/top-events`: the join drops an object without events. -/
def topEventsObjects (X : Externals) (db : Database) (limit : Nat) : List Json :=
  (firstBy (mostEventsFirst db) limit (db.objects.rows.filter fun row => 0 < eventCount db row)).map
    fun row => (objectRowToJson X row).insert "event_count" (.num (.fin (eventCount db row)))

/-- `/objects/popular`. -/
def popular (X : Externals) (limitParam : Option String) (conn : Except Exn Unit) (db : Database) :
    TopNAnswer :=
  topN (popularObjects X db) limitParam conn

/-- `/objects/top-events`. -/
def topEvents (X : Externals) (limitParam : Option String) (conn : Except Exn Unit)
    (db : Database) : TopNAnswer :=
  topN (topEventsObjects X db) limitParam conn

/-! ## What a limit spells -/

/-- A decimal numeral of a positive integer. -/
def PositiveNumeral (s : String) (n : Nat) : Prop :=
  IsDigits s.toList ∧ digitsValue 10 s.toList = n ∧ 0 < n

/-- Both handlers take a limit for what it spells, and refuse it when that is no positive
integer. -/
structure LimitMeant (X : Externals) (s : String) : Prop where
  numeral : ∀ n, PositiveNumeral s n → ∀ db,
    popular X (some s) (.ok ()) db = ⟨some (min n 100), .ok (popularObjects X db (min n 100))⟩ ∧
      topEvents X (some s) (.ok ()) db =
        ⟨some (min n 100), .ok (topEventsObjects X db (min n 100))⟩
  other : (∀ n, ¬ PositiveNumeral s n) → ∀ conn db,
    popular X (some s) conn db = limitRefused ∧ topEvents X (some s) conn db = limitRefused
  alike : ∀ conn db,
    (popular X (some s) conn db).queryLimit = (topEvents X (some s) conn db).queryLimit ∧
      (popular X (some s) conn db = limitRefused ↔ topEvents X (some s) conn db = limitRefused)

/-- The low 32 bits, with a sign, say what the text says: of a positive numeral its value, or at
least that it exceeds the maximum, and of any other text that it is no positive number. -/
structure LowBitsAgree (s : String) : Prop where
  numeral : ∀ n, PositiveNumeral s n →
    n < 2 ^ 31 ∨ n < 2 ^ 63 ∧ 100 ≤ n % 2 ^ 32 ∧ n % 2 ^ 32 < 2 ^ 31
  other : (∀ n, ¬ PositiveNumeral s n) → ∀ n rest, BeginsWithInt s.toList n rest → IsInt64 n →
    n % 2 ^ 32 = 0 ∨ 2 ^ 31 ≤ n % 2 ^ 32

section
variable {X : Externals} {s : String} {select : Nat → List Json} {conn : Except Exn Unit}

/-- A limit that `atoi` reads as zero or less is refused before the handler connects. -/
theorem topN_refused (h : atoi s ≤ 0) : topN select (some s) conn = limitRefused := if_pos h

/-- Any other limit is taken, up to the largest that is allowed. -/
theorem topN_accepted (h : 0 < atoi s) :
    topN select (some s) conn = runTopN select (min (atoi s) kMaxTopNLimit).toNat conn :=
  if_neg (Int.not_le.2 h)

/-- What comes out of the `try` block is not the refusal: it is a list or a 500. -/
theorem runTopN_ne_refused (limit : Nat) : runTopN select limit conn ≠ limitRefused := by
  cases conn <;> simp [runTopN, limitRefused]

/-- A limit is refused exactly when `atoi` reads no positive number from it. -/
theorem topN_eq_refused_iff : topN select (some s) conn = limitRefused ↔ atoi s ≤ 0 := by
  refine ⟨fun h => ?_, topN_refused⟩
  by_contra hpos
  rw [topN_accepted (Int.not_le.1 hpos)] at h
  exact runTopN_ne_refused _ h

/-- Both endpoints decide alike, whatever the limit. -/
theorem topN_alike (select select' : Nat → List Json) (s : String) (conn : Except Exn Unit) :
    (topN select (some s) conn).queryLimit = (topN select' (some s) conn).queryLimit := by
  rcases lt_or_ge 0 (atoi s) with h | h
  · rw [topN_accepted h, topN_accepted h]
    cases conn <;> rfl
  · rw [topN_refused h, topN_refused h]

/-- What a limit means is decided by the number that `atoi` makes of it. -/
theorem limitMeant_iff_atoi : LimitMeant X s ↔
    (∀ n, PositiveNumeral s n → 0 < atoi s ∧ (min (atoi s) 100).toNat = min n 100) ∧
      ((∀ n, ¬ PositiveNumeral s n) → atoi s ≤ 0) := by
  constructor
  · intro h
    refine ⟨fun n hn => ?_, fun hother => ?_⟩
    · obtain ⟨hpopular, -⟩ := h.numeral n hn .empty
      have hpos : 0 < atoi s := by
        by_contra hle
        rw [popular, topN_refused (Int.not_lt.1 hle)] at hpopular
        cases congrArg TopNAnswer.queryLimit hpopular
      rw [popular, topN_accepted hpos] at hpopular
      exact ⟨hpos, Option.some.inj (congrArg TopNAnswer.queryLimit hpopular)⟩
    · exact topN_eq_refused_iff.1 (h.other hother (.ok ()) .empty).1
  · rintro ⟨hnumeral, hother⟩
    refine ⟨fun n hn db => ?_, fun h conn db => ?_, fun conn db => ⟨topN_alike _ _ s conn, ?_⟩⟩
    · obtain ⟨hpos, hlimit⟩ := hnumeral n hn
      rw [popular, topEvents, topN_accepted hpos, topN_accepted hpos, kMaxTopNLimit, hlimit]
      exact ⟨rfl, rfl⟩
    · exact ⟨topN_refused (hother h), topN_refused (hother h)⟩
    · exact topN_eq_refused_iff.trans topN_eq_refused_iff.symm

/-- A numeral is read to its end. -/
theorem PositiveNumeral.beginsWithInt {n : Nat} (h : PositiveNumeral s n) :
    BeginsWithInt s.toList n [] := by
  obtain ⟨hdigits, rfl, -⟩ := h
  exact ⟨[], [], s.toList, (List.append_nil _).symm, List.forall_mem_nil _, .inl rfl, hdigits,
    nofun, rfl⟩

/-- The limit that a positive numeral spells is the one that is used exactly when the low 32 bits of
the number say so. -/
theorem PositiveNumeral.atoi_iff {n : Nat} (h : PositiveNumeral s n) :
    (0 < atoi s ∧ (min (atoi s) 100).toNat = min n 100) ↔
      n < 2 ^ 31 ∨ n < 2 ^ 63 ∧ 100 ≤ n % 2 ^ 32 ∧ n % 2 ^ 32 < 2 ^ 31 := by
  have hpos := h.2.2
  rw [atoi_eq h.beginsWithInt]
  unfold IsInt64
  split_ifs <;> omega

/-- `atoi` reads nothing positive when the text begins with no numeral that a `long` holds, or when
the low 32 bits of that numeral have the sign bit or are zero. -/
theorem atoi_nonpos_iff : atoi s ≤ 0 ↔ ∀ n rest, BeginsWithInt s.toList n rest → IsInt64 n →
    n % 2 ^ 32 = 0 ∨ 2 ^ 31 ≤ n % 2 ^ 32 := by
  by_cases h : ∃ n rest, BeginsWithInt s.toList n rest
  · obtain ⟨n, rest, hn⟩ := h
    have hiff : atoi s ≤ 0 ↔ (IsInt64 n → n % 2 ^ 32 = 0 ∨ 2 ^ 31 ≤ n % 2 ^ 32) := by
      rw [atoi_eq hn]
      unfold IsInt64
      split_ifs <;> omega
    rw [hiff]
    constructor
    · intro himp m rest' hm
      rwa [← (hn.unique hm).1]
    · exact fun hall => hall n rest hn
  · rw [atoi_eq_zero fun n rest hn => h ⟨n, rest, hn⟩]
    exact iff_of_true le_rfl fun n rest hn => absurd ⟨n, rest, hn⟩ h

end

/-- A limit means what it spells exactly when the low 32 bits of its numeral say the same. -/
theorem limitMeant_iff (X : Externals) (s : String) : LimitMeant X s ↔ LowBitsAgree s := by
  rw [limitMeant_iff_atoi, atoi_nonpos_iff]
  constructor
  · rintro ⟨hnumeral, hother⟩
    exact ⟨fun n hn => hn.atoi_iff.1 (hnumeral n hn), hother⟩
  · rintro ⟨hnumeral, hother⟩
    exact ⟨fun n hn => hn.atoi_iff.2 (hnumeral n hn), hother⟩

/-- A text that is no numeral is taken for the one it begins with, and a numeral of a large number
for a small one. -/
theorem limits_misread : ¬ LimitMeant (.ofTables [] [] []) "10abc" ∧
    ¬ LimitMeant (.ofTables [] [] []) "4294967297" := by
  constructor
  · intro h
    have hother : ∀ n, ¬ PositiveNumeral "10abc" n := fun n hn =>
      absurd (hn.1.2 'a' (by decide)) (by decide)
    exact absurd ((limitMeant_iff_atoi.1 h).2 hother) (by decide)
  · intro h
    have hn : PositiveNumeral "4294967297" 4294967297 :=
      ⟨⟨by decide, List.all_eq_true.1 (by decide)⟩, by decide, by decide⟩
    have hbits := hn.atoi_iff.1 ((limitMeant_iff_atoi.1 h).1 _ hn)
    omega

end VitaleBackend
