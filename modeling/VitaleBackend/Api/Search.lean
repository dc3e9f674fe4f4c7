import VitaleBackend.Api.Detail
import VitaleBackend.Lib.Like

/-!
# `/objects/search`

An object is found by a prefix of its name, by a similar name or by its number. The page has the 20
most similar objects, and the total says how many there are (`search_pages`). The prefix is put into
a `LIKE` pattern as it comes, so that it is one exactly when it has no character that means
something in a pattern (`prefixClause_iff`).
-/

namespace VitaleBackend

open Relational

/-- What Postgres and `pg_trgm` make of texts: the lower case of a character, which leaves `%`, `_`
and the backslash alone and is none of them otherwise, and `%` and `similarity` on two texts. -/
structure TextSearch where
  lower : Char → Char
  lower_lower : ∀ c, lower (lower c) = lower c
  lower_plain : ∀ c, Like.Plain (lower c) ↔ Like.Plain c
  lower_of_not_plain : ∀ c, ¬ Like.Plain c → lower c = c
  similar : String → String → Bool
  similarity : String → String → Rat

/-- `text ILIKE pattern`. -/
def TextSearch.ILike (T : TextSearch) (text pattern : String) : Prop :=
  Like.Likes (text.toList.map T.lower) (pattern.toList.map T.lower)

/-- Decided by the matcher, on the two lists of folded characters. -/
instance (T : TextSearch) (text pattern : String) : Decidable (T.ILike text pattern) :=
  inferInstanceAs (Decidable (Like.Likes _ _))

/-- The lower case of an ASCII letter lies 32 characters on. -/
theorem toLower_cases (c : Char) : c.toLower = c ∨
    (65 ≤ c.toNat ∧ c.toNat ≤ 90 ∧ c.toLower.toNat = c.toNat + 32) := by
  unfold Char.toLower
  split
  · next h =>
    refine .inr ⟨h.1, h.2, ?_⟩
    have hle : c.toNat ≤ 90 := h.2
    show (c.toNat + 32) % 2 ^ 32 = c.toNat + 32
    omega
  · exact .inl rfl

/-- The characters that a pattern takes literally, by their codes. -/
theorem plain_iff (c : Char) : Like.Plain c ↔ c.toNat ≠ 37 ∧ c.toNat ≠ 95 ∧ c.toNat ≠ 92 := by
  have h : ∀ d : Char, c ≠ d ↔ c.toNat ≠ d.toNat := fun d => Char.toNat_inj.not.symm
  unfold Like.Plain
  rw [h, h, h]
  rfl

/-- Lower case as in the C locale, and texts that are similar only to themselves. -/
def asciiSearch : TextSearch where
  lower := Char.toLower
  lower_lower c := by
    rcases toLower_cases c with h | ⟨h₁, h₂, h⟩
    · rw [h, h]
    · rcases toLower_cases c.toLower with h' | ⟨h₁', h₂', -⟩
      · exact h'
      · omega
  lower_plain c := by
    rcases toLower_cases c with h | ⟨h₁, h₂, h⟩
    · rw [h]
    · rw [plain_iff, plain_iff]
      omega
  lower_of_not_plain c hc := by
    rcases toLower_cases c with h | ⟨h₁, h₂, h⟩
    · exact h
    · rw [plain_iff] at hc
      omega
  similar s t := s = t
  similarity s t := if s = t then 1 else 0

/-! ## The handler -/

/-- The text of a parameter up to its first NUL. -/
def cString (s : String) : String := String.ofList (s.toList.takeWhile (· ≠ Char.ofNat 0))

/-- The text that is searched for, when there is one. -/
def searchText (q : Option String) : Option String :=
  (q.map cString).filter (· ≠ "")

/-- The `WHERE`: an object without a name is found by its number only. -/
def found (T : TextSearch) (q : String) (row : ObjectRow) : Bool :=
  (row.objectName.any fun name => T.ILike name (q ++ "%") || T.similar name q) ||
    decide (toString row.noradCatId = q)

/-- `ORDER BY similarity(object_name, $1) DESC`, where NULL comes first. -/
def moreSimilar (T : TextSearch) (q : String) (a b : ObjectRow) : Prop :=
  ∀ x ∈ a.objectName, ∃ y ∈ b.objectName, T.similarity y q ≤ T.similarity x q

/-- Decided by comparing the similarities of the names, of which there may be none. -/
instance (T : TextSearch) (q : String) : DecidableRel (moreSimilar T q) := fun a b =>
  inferInstanceAs (Decidable (∀ x ∈ a.objectName, ∃ y ∈ b.objectName,
    T.similarity y q ≤ T.similarity x q))

/-- The rows that are found. -/
def foundRows (T : TextSearch) (q : String) (db : Database) : List ObjectRow :=
  db.objects.rows.filter (found T q)

/-- The rows of the select, each of which has `COUNT(*) OVER()` as its `total_matches`. -/
def searchRows (T : TextSearch) (q : String) (db : Database) : List (ObjectRow × Nat) :=
  (firstBy (moreSimilar T q) 20 (foundRows T q db)).map fun row => (row, (foundRows T q db).length)

/-- `rows.empty() ? 0 : rows[0]["total_matches"]`. -/
def totalMatches (rows : List (ObjectRow × Nat)) : Nat := (rows.head?.map (·.2)).getD 0

/-- The handler. -/
def search (X : Externals) (T : TextSearch) (q : Option String) (conn : Except Exn Unit)
    (db : Database) : JsonResponse :=
  match searchText q with
  | none => errorResponse 400 "missing required query parameter 'q'"
  | some q =>
    let rows := searchRows T q db
    respond conn ⟨200, .obj [("objects", .arr (rows.map fun row => objectRowToJson X row.1)),
      ("total_matches", .num (.fin (totalMatches rows)))]⟩

/-! ## The prefix -/

section
variable (T : TextSearch) (q : String)

/-- The pattern of the prefix clause, in lower case. -/
theorem lower_pattern : (q ++ "%").toList.map T.lower = q.toList.map T.lower ++ ['%'] := by
  rw [String.toList_append, List.map_append]
  exact congrArg (_ ++ [·]) (T.lower_of_not_plain '%' (by decide))

/-- A text has no special characters exactly when its lower case has none: none of them has a case.
-/
theorem literal_lower : Like.Literal (q.toList.map T.lower) ↔ Like.Literal q.toList := by
  simp only [Like.Literal, List.forall_mem_map, T.lower_plain]

/-- The clause `object_name ILIKE $1 || '%'` is about names that start with the text, up to case,
exactly when the text has no `%`, no `_` and no backslash. -/
theorem prefixClause_iff : (∀ name : String, T.ILike name (q ++ "%") ↔
    q.toList.map T.lower <+: name.toList.map T.lower) ↔ Like.Literal q.toList := by
  unfold TextSearch.ILike
  rw [lower_pattern, ← literal_lower T]
  constructor
  · intro h
    refine Like.literal_of_continues fun s hs hlikes => ?_
    -- the text that the pattern matches is in lower case already
    have hlower : s.map T.lower = s := by
      refine (List.map_congr_left fun c hc => ?_).trans (List.map_id s)
      rcases hs c hc with rfl | hc
      · exact T.lower_of_not_plain '%' (by decide)
      · obtain ⟨c, -, rfl⟩ := List.mem_map.1 hc
        exact T.lower_lower c
    have hname := h (String.ofList s)
    rw [String.toList_ofList, hlower] at hname
    exact hname.1 hlikes
  · exact fun h name => Like.likes_of_literal h _

end

/-- A text that ends with a backslash is no prefix of what its pattern matches. -/
example : asciiSearch.ILike "ab%" ("AB\\" ++ "%") ∧ ¬ asciiSearch.ILike "ab\\" ("AB\\" ++ "%") := by
  decide +kernel

/-! ## The page -/

section
variable {T : TextSearch} {q : String}

/-- Any two objects can be listed one before the other. One without a name goes first. -/
instance : Std.Total (moreSimilar T q) where
  total a b := by
    unfold moreSimilar
    cases a.objectName with
    | none => exact .inl nofun
    | some x =>
      cases b.objectName with
      | none => exact .inr nofun
      | some y =>
        simp only [Option.mem_some_iff, forall_eq', exists_eq_left']
        exact le_total _ _

/-- The order of the page is transitive: an object that comes before a named one is unnamed or more
similar. -/
instance : IsTrans ObjectRow (moreSimilar T q) where
  trans a b c h h' := by
    intro x hx
    obtain ⟨y, hy, hyx⟩ := h x hx
    obtain ⟨z, hz, hzy⟩ := h' y hy
    exact ⟨z, hz, hzy.trans hyx⟩

/-- The objects and the total of a page. -/
structure SearchPage (T : TextSearch) (q : String) (db : Database) (shown : List ObjectRow)
    (total : Nat) : Prop where
  total_eq : total = (foundRows T q db).length
  length_eq : shown.length = min 20 total
  found : ∀ row ∈ shown, row ∈ foundRows T q db
  distinct : (shown.map (·.noradCatId)).Nodup
  sorted : shown.Pairwise (moreSimilar T q)
  complete : ∀ row ∈ foundRows T q db, row ∉ shown → shown.length = 20 ∧
    ∀ a ∈ shown, moreSimilar T q a row

/-- The total is that of all objects that are found, also when there are none. -/
theorem totalMatches_searchRows (T : TextSearch) (q : String) (db : Database) :
    totalMatches (searchRows T q db) = (foundRows T q db).length := by
  unfold totalMatches searchRows
  rw [List.head?_map, Option.map_map]
  cases hhead : (firstBy (moreSimilar T q) 20 (foundRows T q db)).head? with
  | some row => rfl
  | none =>
    have hlen := firstBy_length (moreSimilar T q) 20 (foundRows T q db)
    rw [List.head?_eq_none_iff.1 hhead, List.length_nil] at hlen
    show 0 = _
    omega

/-- The rows of a select are objects that are found. -/
theorem mem_of_mem_searchRows {db : Database} {r : ObjectRow × Nat} (h : r ∈ searchRows T q db) :
    r.1 ∈ db.objects.rows := by
  obtain ⟨row, hrow, rfl⟩ := List.mem_map.1 h
  exact (List.mem_filter.1 (mem_of_mem_firstBy _ hrow)).1

/-- A page that is not full has the object whose number is searched for. -/
theorem mem_searchRows_of_short {db : Database} {row : ObjectRow}
    (h : (searchRows T q db).length < 20) (hrow : row ∈ db.objects.rows)
    (hq : toString row.noradCatId = q) :
    (row, (foundRows T q db).length) ∈ searchRows T q db := by
  have hfound : row ∈ foundRows T q db := by
    refine List.mem_filter.2 ⟨hrow, ?_⟩
    rw [found, Bool.or_eq_true, decide_eq_true_eq]
    exact .inr hq
  rw [searchRows, List.length_map] at h
  exact List.mem_map_of_mem (firstBy_short _ h hfound)

/-- A search for a text answers with the most similar 20 of the objects that are found and with the
number of all of them. -/
theorem search_pages (X : Externals) (T : TextSearch) {param : Option String}
    (h : searchText param = some q) (db : Database) : ∃ shown total,
    search X T param (.ok ()) db = ⟨200, .obj [("objects", .arr (shown.map (objectRowToJson X))),
      ("total_matches", .num (.fin (total : Nat)))]⟩ ∧ SearchPage T q db shown total := by
  refine ⟨firstBy (moreSimilar T q) 20 (foundRows T q db), (foundRows T q db).length, ?_, rfl, ?_,
    fun row => mem_of_mem_firstBy _, ?_, firstBy_pairwise _ _ _, fun row hrow hout => ⟨?_, ?_⟩⟩
  · unfold search
    rw [h]
    dsimp only
    rw [totalMatches_searchRows, searchRows, List.map_map]
    rfl
  · exact firstBy_length _ _ _
  · have hperm := (List.perm_insertionSort (moreSimilar T q) (foundRows T q db)).map (·.noradCatId)
    have hnodup : ((foundRows T q db).map (·.noradCatId)).Nodup :=
      db.objects.nodup.sublist (List.filter_sublist.map _)
    exact (hperm.nodup_iff.2 hnodup).sublist ((List.take_sublist _ _).map _)
  · by_contra hshort
    have hlen := firstBy_length (moreSimilar T q) 20 (foundRows T q db)
    exact hout (firstBy_short _ (by omega) hrow)
  · exact fun a ha => firstBy_le _ ha hrow hout

end

namespace SearchFixture

/-- Two objects, of which one has the name that is searched for. -/
def catalogue : Database :=
  .ofObjects ((Table.single { RotationFixture.object 1 with objectName := "VANGUARD 1" }).insert
    { RotationFixture.object 0 with noradCatId := 7 } (by decide)) <| by
    simp only [Table.keys_insert, Table.keys_single, List.forall_mem_append,
      List.forall_mem_singleton]
    exact ⟨show IsInt32 5 by decide, show IsInt32 7 by decide⟩

end SearchFixture

open SearchFixture in
/-- A search that finds one of two objects, on one page. -/
theorem search_pages_vanguard : ∃ shown total,
    search SnapshotsFixture.externals asciiSearch (some "VANGUARD 1") (.ok ()) catalogue =
      ⟨200, .obj [("objects", .arr (shown.map (objectRowToJson SnapshotsFixture.externals))),
        ("total_matches", .num (.fin (total : Nat)))]⟩ ∧
    SearchPage asciiSearch "VANGUARD 1" catalogue shown total :=
  search_pages SnapshotsFixture.externals asciiSearch (by decide +kernel) catalogue

end VitaleBackend
