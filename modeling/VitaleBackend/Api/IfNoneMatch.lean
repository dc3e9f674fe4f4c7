import VitaleBackend.Api.Catalog
import VitaleBackend.Lib.EntityTag

/-!
# How `If-None-Match` is matched

`if_none_match_matches` splits a value at every comma and takes an asterisk anywhere for the
wildcard. The commas of an opaque tag do no harm: only a whole entity tag has the two quotes of the
`ETag` (`any_pieceMatches`). An asterisk of an opaque tag does, and `matchedByGrammar_iff` says of
which values.
-/

namespace VitaleBackend

open EntityTags Splitting

/-- The opaque tag of the `ETag`. -/
def opaqueTag (second : Int) (objectCount : Nat) : List Char :=
  (toChar second).toList ++ '-' :: Nat.toDigits 10 objectCount

/-- What is asked of a piece of the value. -/
def pieceMatches (etag : String) (token : List Char) : Bool :=
  trimBlanks token ≠ [] && stripWeak (trimBlanks token) = etag.toList

section
variable {second : Int} {objectCount : Nat} {e : Element} {header : IfNoneMatch} {c : Char}

/-- The tag of the handler is the opaque tag between quotes. -/
theorem toList_etagText_opaqueTag : (etagText (toChar second) objectCount).toList =
    '"' :: (opaqueTag second objectCount ++ ['"']) := by
  rw [toList_etagText, opaqueTag, List.append_assoc, List.cons_append]

/-- The opaque tag is made of characters that `if_none_match_matches` takes as they are. -/
theorem opaqueTag_isTagChar : ∀ c ∈ opaqueTag second objectCount, IsTagChar c := by
  intro c hc
  refine etagText_isTagChar second objectCount c ?_
  rw [toList_etagText_opaqueTag]
  exact .tail _ (List.mem_append_left _ hc)

/-! ## A piece -/

/-- The blanks of the function are the optional white space of the grammar. -/
theorem isBlank_iff : isBlank c = true ↔ IsBlank c := by
  simp [isBlank, IsBlank]

/-- Trimming takes from an element exactly the blanks that the grammar allows around its tag. -/
theorem trimBlanks_text (e : Element) : trimBlanks e.text = e.toEntityTag.text := by
  have hhead : ∀ c ∈ e.toEntityTag.text.head?, c = 'W' ∨ c = '"' := by
    intro c hc
    cases hweak : e.weak <;> simp [EntityTag.text, hweak] at hc
    · exact .inr hc.symm
    · exact .inl hc.symm
  have hlast : ∀ c ∈ e.toEntityTag.text.getLast?, c = '"' := by
    intro c hc
    rw [EntityTag.text, ← List.cons_append, ← List.append_assoc, List.getLast?_concat] at hc
    cases hc
    rfl
  have hne : e.toEntityTag.text ≠ [] := by
    simp [EntityTag.text]
  refine strip_eq_of_isStripped hne ⟨e.before, e.after, rfl,
    fun c hc => isBlank_iff.2 (e.before_blank c hc),
    fun c hc => isBlank_iff.2 (e.after_blank c hc), fun c hc => ?_, fun c hc => ?_⟩
  · rcases hhead c hc with rfl | rfl <;> rfl
  · rw [hlast c hc]
    rfl

/-- Without `W/` a weak tag and a strong one are the same characters. -/
theorem stripWeak_text (e : EntityTag) : stripWeak e.text = '"' :: (e.tag ++ ['"']) := by
  cases hweak : e.weak <;> simp [EntityTag.text, hweak, stripWeak]

/-- Taking off `W/` takes characters away and adds none. -/
theorem stripWeak_sublist (s : List Char) : (stripWeak s).Sublist s := by
  unfold stripWeak
  split
  · exact ((List.Sublist.refl _).cons _).cons _
  · exact List.Sublist.refl _

/-- An entity tag matches by its opaque tag. -/
theorem pieceMatches_text : pieceMatches (etagText (toChar second) objectCount) e.text = true ↔
    e.tag = opaqueTag second objectCount := by
  have hne : e.toEntityTag.text ≠ [] := by
    simp [EntityTag.text]
  rw [pieceMatches, trimBlanks_text, stripWeak_text, toList_etagText_opaqueTag, Bool.and_eq_true,
    decide_eq_true_eq, decide_eq_true_eq, and_iff_right hne, List.cons.injEq, and_iff_right rfl,
    List.append_left_inj]

/-- A piece that matches has both quotes. -/
theorem two_le_count_of_pieceMatches {token : List Char}
    (h : pieceMatches (etagText (toChar second) objectCount) token = true) :
    2 ≤ token.count '"' := by
  rw [pieceMatches, Bool.and_eq_true, decide_eq_true_eq, decide_eq_true_eq,
    toList_etagText_opaqueTag] at h
  have hsub : (stripWeak (trimBlanks token)).Sublist token :=
    (stripWeak_sublist _).trans
      ((List.rdropWhile_prefix _ _).sublist.trans (List.dropWhile_sublist _))
  have hle := hsub.count_le '"'
  rw [h.2, List.count_cons_self, List.count_append] at hle
  have hone : ['"'].count '"' = 1 := rfl
  omega

/-- The pieces of an element match when its opaque tag is that of the `ETag`, though its own commas
split it further. -/
theorem any_pieceMatches (e : Element) :
    (e.text.splitOn ',').any (pieceMatches (etagText (toChar second) objectCount)) = true ↔
      e.tag = opaqueTag second objectCount := by
  by_cases hcomma : ',' ∈ e.tag
  · refine iff_of_false (fun h => ?_) fun h => ?_
    · obtain ⟨token, htoken, hmatch⟩ := List.any_eq_true.1 h
      have hone := e.count_quote_le_one hcomma htoken
      have htwo := two_le_count_of_pieceMatches hmatch
      omega
    · rw [h] at hcomma
      exact (opaqueTag_isTagChar _ hcomma).1 rfl
  · rw [Element.splitOn_text hcomma, List.any_cons, List.any_nil, Bool.or_false, pieceMatches_text]

/-! ## A value -/

/-- No value of the grammar is empty, so that the first test of the function does not apply. -/
theorem text_ne_empty (header : IfNoneMatch) : String.ofList header.text ≠ "" := by
  have hne : header.text ≠ [] := by
    cases header with
    | any => exact List.cons_ne_nil _ _
    | list first rest =>
      cases rest <;> simp [IfNoneMatch.text, Element.text, EntityTag.text]
  intro h
  have hlist := congrArg String.toList h
  rw [String.toList_ofList] at hlist
  exact hne hlist

/-- Some opaque tag of the value has an asterisk. -/
def HasAsterisk (header : IfNoneMatch) : Prop := ∃ e ∈ header.elements, '*' ∈ e.tag

/-- The function agrees with the grammar on a value and an `ETag` of the handler. -/
def MatchedByGrammar (header : IfNoneMatch) (second : Int) (objectCount : Nat) : Prop :=
  ifNoneMatchMatches (.ofList header.text) (etagText (toChar second) objectCount) = true ↔
    header.Matches (opaqueTag second objectCount)

/-- The wildcard matches every tag. -/
theorem ifNoneMatchMatches_any (etag : String) :
    ifNoneMatchMatches (.ofList IfNoneMatch.any.text) etag = true := by
  rw [ifNoneMatchMatches, if_neg (text_ne_empty _), if_pos]
  rw [String.toList_ofList]
  exact .head _

/-- So does every value with an asterisk, wherever it stands in one of its tags: the function looks
for the character in the whole header. -/
theorem ifNoneMatchMatches_of_asterisk (h : HasAsterisk header) (etag : String) :
    ifNoneMatchMatches (.ofList header.text) etag = true := by
  cases header with
  | any => exact ifNoneMatchMatches_any etag
  | list first rest =>
    rw [ifNoneMatchMatches, if_neg (text_ne_empty _), if_pos]
    rw [String.toList_ofList]
    exact (IfNoneMatch.mem_text_list (by decide) (by decide)).2 h

/-- A list without an asterisk matches when one of its opaque tags is that of the `ETag`. -/
theorem ifNoneMatchMatches_list {first : Element} {rest : List Element}
    (h : ¬ HasAsterisk (.list first rest)) :
    ifNoneMatchMatches (.ofList (IfNoneMatch.list first rest).text)
        (etagText (toChar second) objectCount) = true ↔
      ∃ e ∈ first :: rest, e.tag = opaqueTag second objectCount := by
  have hasterisk : '*' ∉ (IfNoneMatch.list first rest).text := fun hmem =>
    h ((IfNoneMatch.mem_text_list (by decide) (by decide)).1 hmem)
  rw [ifNoneMatchMatches, if_neg (text_ne_empty _), String.toList_ofList, if_neg hasterisk]
  have hpieces := any_splitOn_intercalate (a := ',')
    (pieceMatches (etagText (toChar second) objectCount)) first.text (rest.map Element.text)
  refine (Bool.eq_iff_iff.1 hpieces).trans ?_
  rw [← List.map_cons, List.any_map, List.any_eq_true]
  exact exists_congr fun e => and_congr_right fun _ => any_pieceMatches e

/-- The function agrees with the grammar when it matches, or no opaque tag has an asterisk. -/
theorem matchedByGrammar_iff (header : IfNoneMatch) (second : Int) (objectCount : Nat) :
    MatchedByGrammar header second objectCount ↔
      header.Matches (opaqueTag second objectCount) ∨ ¬ HasAsterisk header := by
  unfold MatchedByGrammar
  constructor
  · intro h
    refine or_iff_not_imp_right.2 fun hasterisk => ?_
    exact h.1 (ifNoneMatchMatches_of_asterisk (not_not.1 hasterisk) _)
  · intro h
    cases header with
    | any => exact iff_of_true (ifNoneMatchMatches_any _) (.inl rfl)
    | list first rest =>
      have hmatches : (IfNoneMatch.list first rest).Matches (opaqueTag second objectCount) ↔
          ∃ e ∈ first :: rest, e.tag = opaqueTag second objectCount :=
        or_iff_right nofun
      by_cases hasterisk : HasAsterisk (.list first rest)
      · exact iff_of_true (ifNoneMatchMatches_of_asterisk hasterisk _)
          (h.resolve_right (not_not.2 hasterisk))
      · rw [hmatches]
        exact ifNoneMatchMatches_list hasterisk

/-- A tag of another resource with an asterisk in it is taken for the wildcard. -/
theorem not_alwaysMatchedByGrammar :
    ¬ ∀ header second objectCount, MatchedByGrammar header second objectCount := by
  intro h
  let tag : Element := ⟨⟨false, "a*b".toList, by decide⟩, [], [], nofun, nofun⟩
  have hmatches := (h (.list tag []) 0 0).1 (by decide +kernel)
  obtain hany | ⟨e, he, htag⟩ := hmatches
  · cases hany
  · rw [List.mem_singleton.1 he] at htag
    exact absurd htag (by decide +kernel)

end

end VitaleBackend
