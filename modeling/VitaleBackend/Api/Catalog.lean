import Mathlib.Data.List.DropRight
import VitaleBackend.Api.HttpDate
import VitaleBackend.Poller.DbWriter

/-!
# `/objects/catalog`

The handler answers from two selects: one for its validators, the stamp of the satcat poller and the
number of rows, and one for the list. The `ETag` says the second of the stamp and the number
(`etag_inj`), `Last-Modified` the nearest second.
-/

namespace VitaleBackend

open Relational

/-! ## Validators -/

/-- `COALESCE((SELECT last_run_at ... WHERE poller_name = 'satcat'), now())`. -/
def genTs (now : Timestamp) (db : Database) : Timestamp :=
  ((db.pollerState.find? "satcat").map (·.lastRunAt)).getD now

/-- The second of a time, its fraction cut off. -/
def wholeSecond (t : Timestamp) : Int := t / 1000000

/-- `EXTRACT(EPOCH FROM t)::bigint`: the cast rounds. -/
def extractEpoch (t : Timestamp) : Int := roundHalfAway ((t : ℚ) / 1000000)

/-- `to_char(t AT TIME ZONE 'UTC', 'YYYY-MM-DD"T"HH24:MI:SS"Z"')`, of the second of `t`. -/
def toChar (second : Int) : String :=
  let tm := gmtimeR second
  padded 4 (tm.year + 1900) ++ "-" ++ padded 2 (tm.mon + 1) ++ "-" ++ padded 2 tm.mday ++ "T" ++
    padded 2 tm.hour ++ ":" ++ padded 2 tm.min ++ ":" ++ padded 2 tm.sec ++ "Z"

/-- The row of the first select. -/
structure CatalogMeta where
  generatedAt : String
  generatedAtEpoch : Int
  objectCount : Nat

/-- The row that the first select makes of a generation time and a count. -/
def CatalogMeta.of (genTs : Timestamp) (objectCount : Nat) : CatalogMeta where
  generatedAt := toChar (wholeSecond genTs)
  generatedAtEpoch := extractEpoch genTs
  objectCount

/-- The first select. -/
def catalogMeta (now : Timestamp) (db : Database) : CatalogMeta :=
  .of (genTs now db) db.objects.rows.length

/-- The text of the `ETag`. -/
def etagText (generatedAt : String) (objectCount : Nat) : String :=
  "\"" ++ generatedAt ++ "-" ++ toString objectCount ++ "\""

/-- A blank, for `find_first_not_of(" \t")`. -/
def isBlank (c : Char) : Bool := c = ' ' || c = '\t'

/-- The text between the first and the last character that is no blank. -/
def trimBlanks (s : List Char) : List Char := (s.dropWhile isBlank).rdropWhile isBlank

/-- `trimmed.substr(2)` when the text starts with `W/`. -/
def stripWeak : List Char → List Char
  | 'W' :: '/' :: s => s
  | s => s

/-- `if_none_match_matches`. A token of blanks only is skipped. -/
def ifNoneMatchMatches (headerValue etag : String) : Bool :=
  if headerValue = "" then false
  else if '*' ∈ headerValue.toList then true
  else (headerValue.toList.splitOn ',').any fun token =>
    trimBlanks token ≠ [] && stripWeak (trimBlanks token) = etag.toList

/-! ## The list -/

/-- `catalog_row_to_json`: NULL is the empty text, but for `decay_date`. -/
def catalogRowToJson (X : Externals) (row : ObjectRow) : Json :=
  .obj
    [("norad_cat_id", .num (.fin row.noradCatId)),
      ("object_name", .str (row.objectName.getD "")),
      ("object_id", .str (row.objectId.getD "")),
      ("country_code", .str (row.countryCode.getD "")),
      ("object_type", .str (row.objectType.getD "")),
      ("launch_date", .str ((row.launchDate.map X.dateOut).getD "")),
      ("decay_date", (row.decayDate.map fun d => Json.str (X.dateOut d)).getD .null),
      ("hit_count", .num (.fin row.hitCount))]

/-- The second select, as the list of the answer. -/
def catalogObjects (X : Externals) (db : Database) : List Json :=
  (db.objects.rows.insertionSort Sql.byNoradCatId).map (catalogRowToJson X)

/-- A row of the list with its `hit_count` left aside. -/
def withoutHitCount : Json → Json
  | .obj members => .obj (members.filter fun m => m.1 ≠ "hit_count")
  | j => j

/-- What a list says besides the hits. -/
def listed (objects : List Json) : List Json := objects.map withoutHitCount

/-- The list has one entry for each row of `objects`, so that its length is the `count` that the
first select would read from the same tables. -/
theorem length_catalogObjects (X : Externals) (db : Database) :
    (catalogObjects X db).length = db.objects.rows.length := by
  rw [catalogObjects, List.length_map, List.length_insertionSort]

/-! ## Hits -/

/-- `SET hit_count = hit_count + 1 WHERE norad_cat_id = $1`, on a row. -/
def ObjectRow.countHit (noradCatId : Int) (row : ObjectRow) : ObjectRow :=
  if row.noradCatId = noradCatId then { row with hitCount := row.hitCount + 1 } else row

/-- A hit leaves the number of the object alone, as `Table.update` asks of what it applies to the
rows. -/
@[simp] theorem ObjectRow.countHit_noradCatId (noradCatId : Int) (row : ObjectRow) :
    (row.countHit noradCatId).noradCatId = row.noradCatId := by
  unfold ObjectRow.countHit
  split <;> rfl

/-- The update of `/objects/<int>`. -/
def Sql.countHit (noradCatId : Int) (db : Database) : Database :=
  db.withObjects (db.objects.update (.countHit noradCatId) (ObjectRow.countHit_noradCatId _))
    (fun k hk => db.object_ids k (by rwa [Table.keys_update] at hk))
    fun k hk => by rwa [Table.keys_update]

/-- The rows after a hit, in the order in which they are stored. -/
theorem Sql.countHit_rows (noradCatId : Int) (db : Database) :
    (countHit noradCatId db).objects.rows = db.objects.rows.map (.countHit noradCatId) := rfl

/-- A hit changes nothing of a row but its `hit_count`. -/
theorem withoutHitCount_countHit (X : Externals) (noradCatId : Int) (row : ObjectRow) :
    withoutHitCount (catalogRowToJson X (row.countHit noradCatId)) =
      withoutHitCount (catalogRowToJson X row) := by
  unfold ObjectRow.countHit
  split <;> rfl

/-- A hit does not move a row either. -/
theorem listed_countHit (X : Externals) (noradCatId : Int) (db : Database) :
    listed (catalogObjects X (Sql.countHit noradCatId db)) = listed (catalogObjects X db) := by
  have hsort :
      (db.objects.rows.map (ObjectRow.countHit noradCatId)).insertionSort Sql.byNoradCatId =
      (db.objects.rows.insertionSort Sql.byNoradCatId).map (.countHit noradCatId) := by
    refine (List.map_insertionSort Sql.byNoradCatId Sql.byNoradCatId _ _ ?_).symm
    intro a _ b _
    simp [Sql.byNoradCatId]
  rw [listed, listed, catalogObjects, catalogObjects, Sql.countHit_rows, hsort, List.map_map,
    List.map_map, List.map_map]
  exact List.map_congr_left fun row _ => withoutHitCount_countHit X noradCatId row

/-! ## The handler -/

/-- The headers that the handler reads, empty when they are absent. -/
structure CatalogRequest where
  ifNoneMatch : String := ""
  ifModifiedSince : String := ""

/-- The headers of `set_catalog_cache_headers`. -/
structure CacheHeaders where
  cacheControl : String
  etag : String
  lastModified : String
  deriving DecidableEq

/-- The responses of the handler: a 304 has no body, and a 500 has no cache headers. -/
inductive CatalogResponse where
  | notModified (headers : CacheHeaders)
  | ok (headers : CacheHeaders) (generatedAt : String) (count : Nat) (objects : List Json)
  | internalError (error : String)

/-- `set_catalog_cache_headers`: the tag and the date of the generation time, and a day in any
cache. -/
def catalogHeaders (info : CatalogMeta) : CacheHeaders where
  cacheControl := "public, max-age=86400"
  etag := etagText info.generatedAt info.objectCount
  lastModified := formatHttpDate info.generatedAtEpoch

/-- Whether the client's copy is current. `If-None-Match` takes precedence, and a date that does not
parse is none. -/
def notModified (req : CatalogRequest) (info : CatalogMeta) : Bool :=
  if req.ifNoneMatch ≠ "" then
    ifNoneMatchMatches req.ifNoneMatch (etagText info.generatedAt info.objectCount)
  else if req.ifModifiedSince ≠ "" then
    match parseHttpDate req.ifModifiedSince with
    | some since => info.generatedAtEpoch ≤ since
    | none => false
  else false

/-- The `try` block, on the results of the two selects. -/
def catalogResponse (req : CatalogRequest) (info : CatalogMeta) (objects : List Json) :
    CatalogResponse :=
  if notModified req info then .notModified (catalogHeaders info)
  else .ok (catalogHeaders info) info.generatedAt info.objectCount objects

/-- The handler: `conn` is the time of its transaction, or the exception of its connection. -/
def catalog (X : Externals) (req : CatalogRequest) (conn : Except Exn Timestamp) (db : Database) :
    CatalogResponse :=
  match conn with
  | .ok now => catalogResponse req (catalogMeta now db) (catalogObjects X db)
  | .error e => .internalError e.what

/-- A 304 answers a request that is found not modified. -/
theorem catalog_notModified {X : Externals} {now : Timestamp} {db : Database}
    {req : CatalogRequest} : (∃ headers, catalog X req (.ok now) db = .notModified headers) ↔
      notModified req (catalogMeta now db) = true := by
  rw [catalog, catalogResponse]
  split
  · next h => exact ⟨fun _ => h, fun _ => ⟨_, rfl⟩⟩
  · next h => exact ⟨nofun, fun h' => absurd h' h⟩

/-! ## What the validators say -/

/-- With a run of the satcat poller on record the generation time is its stamp. -/
theorem genTs_some {now : Timestamp} {db : Database} {row : PollerRow}
    (h : db.pollerState.find? "satcat" = some row) : genTs now db = row.lastRunAt := by
  rw [genTs, h]
  rfl

/-- Without one it is the time of the request, as `COALESCE` has it. -/
theorem genTs_none {now : Timestamp} {db : Database} (h : db.pollerState.find? "satcat" = none) :
    genTs now db = now := by
  rw [genTs, h]
  rfl

/-- Cutting off a time to the second keeps the order of times. -/
theorem wholeSecond_mono {s t : Timestamp} (h : s ≤ t) : wholeSecond s ≤ wholeSecond t :=
  Int.ediv_le_ediv (by decide) h

/-- So does rounding it, as `EXTRACT(EPOCH ...)::bigint` does. -/
theorem extractEpoch_mono {s t : Timestamp} (h : s ≤ t) : extractEpoch s ≤ extractEpoch t :=
  roundHalfAway_mono (div_le_div_of_nonneg_right (Int.cast_le.2 h) (by norm_num))

/-- A time after 1970 is rounded to a second after 1970. -/
theorem extractEpoch_nonneg {t : Timestamp} (h : 0 ≤ t) : 0 ≤ extractEpoch t := by
  have hzero : extractEpoch 0 = 0 := by decide +kernel
  exact hzero ▸ extractEpoch_mono h

/-- The characters of a printed second, field by field. -/
theorem toList_toChar (second : Int) : (toChar second).toList =
    (padded 4 ((gmtimeR second).year + 1900)).toList ++ '-' ::
      ((padded 2 ((gmtimeR second).mon + 1)).toList ++ '-' ::
        ((padded 2 (gmtimeR second).mday).toList ++ 'T' ::
          ((padded 2 (gmtimeR second).hour).toList ++ ':' ::
            ((padded 2 (gmtimeR second).min).toList ++ ':' ::
              ((padded 2 (gmtimeR second).sec).toList ++ ['Z']))))) := by
  simp [toChar, String.toList_append]

/-- The text of a time tells its second. -/
theorem toChar_append_inj {s t : Int} {u v : List Char}
    (h : (toChar s).toList ++ u = (toChar t).toList ++ v) : s = t ∧ u = v := by
  simp only [toList_toChar, List.append_assoc, List.cons_append, List.nil_append] at h
  obtain ⟨hyear, h⟩ := padded_append_inj rfl h
  obtain ⟨hmonth, h⟩ := padded_append_inj rfl h
  obtain ⟨hday, h⟩ := padded_append_inj rfl h
  obtain ⟨hhour, h⟩ := padded_append_inj rfl h
  obtain ⟨hmin, h⟩ := padded_append_inj rfl h
  obtain ⟨hsec, h⟩ := padded_append_inj rfl h
  refine ⟨?_, h⟩
  have htm : ({ gmtimeR s with wday := 0 } : Tm) = { gmtimeR t with wday := 0 } := by
    rw [Tm.mk.injEq]
    exact ⟨hsec, hmin, hhour, hday, by omega, by omega, rfl⟩
  rw [← timegm_gmtimeR s 0, htm, timegm_gmtimeR]

/-- The decimal numeral of a natural number consists of digits. -/
theorem toDigits_isDigits (n : Nat) : IsDigits (Nat.toDigits 10 n) :=
  ⟨Nat.toDigits_ne_nil, fun _ hc => Nat.isDigit_of_mem_toDigits (by decide) (by decide) hc⟩

/-- The characters of a tag: the time and the count between quotes, with a hyphen between them. -/
theorem toList_etagText (generatedAt : String) (n : Nat) : (etagText generatedAt n).toList =
    '"' :: (generatedAt.toList ++ '-' :: (Nat.toDigits 10 n ++ ['"'])) := by
  simp [etagText, String.toList_append]

/-- The `ETag` tells the second and the number of rows. -/
theorem etag_inj {s t : Int} {m n : Nat} :
    etagText (toChar s) m = etagText (toChar t) n ↔ s = t ∧ m = n := by
  constructor
  · intro h
    have hlist := congrArg String.toList h
    rw [toList_etagText, toList_etagText] at hlist
    obtain ⟨hst, hrest⟩ := toChar_append_inj (List.cons.inj hlist).2
    obtain ⟨hdigits, -⟩ := digits_append_inj (toDigits_isDigits m) (toDigits_isDigits n)
      (rfl : '"'.isDigit = false) (List.cons.inj hrest).2
    have hvalue := congrArg (fun ds => Nat.ofDigitChars 10 ds 0) hdigits
    exact ⟨hst, by simpa using hvalue⟩
  · rintro ⟨rfl, rfl⟩
    rfl

/-! ## `If-None-Match` with an `ETag` of the handler -/

/-- A character of an `ETag` of the handler. -/
def IsTagChar (c : Char) : Prop := c ≠ ',' ∧ c ≠ '*' ∧ isBlank c = false

/-- Decided by its three conditions. -/
instance (c : Char) : Decidable (IsTagChar c) := inferInstanceAs (Decidable (_ ∧ _))

/-- A digit is neither a separator of the header nor a blank nor the wildcard. -/
theorem isTagChar_of_isDigit {c : Char} (h : c.isDigit = true) : IsTagChar c := by
  refine ⟨ne_of_isDigit h rfl, ne_of_isDigit h rfl, ?_⟩
  rw [isBlank, Bool.or_eq_false_iff, decide_eq_false_iff_not, decide_eq_false_iff_not]
  exact ⟨ne_of_isDigit h rfl, ne_of_isDigit h rfl⟩

/-- A padded number is made of such characters. -/
theorem padded_isTagChar {width : Nat} {n : Int} : ∀ c ∈ (padded width n).toList, IsTagChar c := by
  intro c hc
  rcases isDigit_or_of_mem_padded hc with h | rfl
  · exact isTagChar_of_isDigit h
  · decide

/-- The same holds of a printed time, whose other characters are `-`, `T`, `:` and `Z`. -/
theorem toChar_isTagChar (s : Int) : ∀ c ∈ (toChar s).toList, IsTagChar c := by
  rw [toList_toChar]
  simp only [List.forall_mem_append, List.forall_mem_cons]
  exact ⟨padded_isTagChar, by decide, padded_isTagChar, by decide, padded_isTagChar, by decide,
    padded_isTagChar, by decide, padded_isTagChar, by decide, padded_isTagChar, by decide,
    List.forall_mem_nil _⟩

/-- A tag is made of characters that `if_none_match_matches` takes as they are. -/
theorem etagText_isTagChar (s : Int) (n : Nat) :
    ∀ c ∈ (etagText (toChar s) n).toList, IsTagChar c := by
  rw [toList_etagText]
  simp only [List.forall_mem_append, List.forall_mem_cons]
  exact ⟨by decide, toChar_isTagChar s, by decide,
    fun c hc => isTagChar_of_isDigit ((toDigits_isDigits n).2 c hc), by decide,
    List.forall_mem_nil _⟩

/-- Trimming takes nothing away from a text without blanks. -/
theorem trimBlanks_of_forall {s : List Char} (h : ∀ c ∈ s, isBlank c = false) :
    trimBlanks s = s := by
  have hdrop : s.dropWhile isBlank = s :=
    List.dropWhile_eq_self_iff.2 fun hl => by
      rw [h _ (List.getElem_mem hl)]
      decide
  rw [trimBlanks, hdrop]
  refine List.rdropWhile_eq_self_iff.2 fun hne => ?_
  rw [h _ (List.getLast_mem hne)]
  decide

/-- A header that is one strong tag matches that tag only. -/
theorem ifNoneMatchMatches_tag {tag etag : String} (hne : tag ≠ "")
    (htag : ∀ c ∈ tag.toList, IsTagChar c) (hweak : stripWeak tag.toList = tag.toList) :
    ifNoneMatchMatches tag etag = true ↔ tag = etag := by
  have hsplit : tag.toList.splitOn ',' = [tag.toList] :=
    List.splitOn_eq_singleton fun h => (htag _ h).1 rfl
  have htrim : trimBlanks tag.toList = tag.toList :=
    trimBlanks_of_forall fun c hc => (htag c hc).2.2
  have hlist : tag.toList ≠ [] := fun h => hne (String.toList_eq_nil_iff.1 h)
  rw [ifNoneMatchMatches, if_neg hne, if_neg fun h => (htag _ h).2.1 rfl, hsplit, List.any_cons,
    List.any_nil, Bool.or_false, htrim, hweak, Bool.and_eq_true, decide_eq_true_eq,
    decide_eq_true_eq, String.toList_inj]
  exact and_iff_right hlist

/-- A tag is not empty: it has at least its quotes. An empty header would count as absent. -/
theorem etagText_ne_empty (generatedAt : String) (n : Nat) : etagText generatedAt n ≠ "" := by
  intro h
  have hlist := toList_etagText generatedAt n
  rw [h] at hlist
  cases hlist

/-- An `ETag` of the handler, sent back, is answered with 304 when it is the present one. -/
theorem notModified_etag {s : Int} {n : Nat} {req : CatalogRequest} {info : CatalogMeta}
    (hreq : req.ifNoneMatch = etagText (toChar s) n) : notModified req info = true ↔
      etagText (toChar s) n = etagText info.generatedAt info.objectCount := by
  have hweak : stripWeak (etagText (toChar s) n).toList = (etagText (toChar s) n).toList := by
    rw [toList_etagText]
    rfl
  rw [notModified, hreq, if_pos (etagText_ne_empty _ _)]
  exact ifNoneMatchMatches_tag (etagText_ne_empty _ _) (etagText_isTagChar s n) hweak

/-- A printed date is not empty either. -/
theorem formatHttpDate_ne_empty (t : Int) : formatHttpDate t ≠ "" := by
  intro h
  have hlist := toList_formatHttpDate t
  rw [h] at hlist
  exact absurd hlist.symm (List.append_ne_nil_of_right_ne_nil _ (List.cons_ne_nil _ _))

/-- A `Last-Modified` of the handler, sent back alone, is answered with 304 when its year can be
read and it is not before the present one. -/
theorem notModified_lastModified {t : Int} {req : CatalogRequest} {info : CatalogMeta}
    (hnone : req.ifNoneMatch = "") (hreq : req.ifModifiedSince = formatHttpDate t) :
    notModified req info = true ↔
      IsScannedYear ((gmtimeR t).year + 1900) ∧ info.generatedAtEpoch ≤ t := by
  rw [notModified, if_neg (not_not.2 hnone), hreq, if_pos (formatHttpDate_ne_empty t),
    parseHttpDate_formatHttpDate]
  by_cases hyear : IsScannedYear ((gmtimeR t).year + 1900)
  · rw [if_pos hyear, and_iff_right hyear]
    exact decide_eq_true_iff
  · rw [if_neg hyear]
    exact ⟨nofun, fun h => absurd h.1 hyear⟩

end VitaleBackend
