import VitaleBackend.Lib.Split

/-!
# Entity tags

The grammar of `If-None-Match`: `*`, or a list of entity tags with commas between them and blanks
around them. An entity tag is a quoted text after an optional `W/`; the text, its opaque tag, may
contain commas and blanks, but no quote. A value that is split at every comma falls into more pieces
than it has entity tags; a piece with two quotes is an entity tag all the same
(`Element.count_quote_le_one`).
-/

namespace EntityTags

open Splitting

/-! ## The grammar -/

/-- A blank. -/
def IsBlank (c : Char) : Prop := c = ' ' ∨ c = '\t'

/-- Decided by its two cases. -/
instance (c : Char) : Decidable (IsBlank c) := inferInstanceAs (Decidable (_ ∨ _))

/-- An entity tag: whether it is weak, and its opaque tag. -/
structure EntityTag where
  weak : Bool
  tag : List Char
  quote_notMem : '"' ∉ tag

/-- The quoted opaque tag, after `W/` when it is weak. -/
def EntityTag.text (e : EntityTag) : List Char :=
  (if e.weak then ['W', '/'] else []) ++ '"' :: (e.tag ++ ['"'])

/-- An entity tag of a list, and the blanks around it. -/
structure Element extends EntityTag where
  before : List Char
  after : List Char
  before_blank : ∀ c ∈ before, IsBlank c
  after_blank : ∀ c ∈ after, IsBlank c

/-- The characters of an element: its tag with the blanks around it. -/
def Element.text (e : Element) : List Char := e.before ++ (e.toEntityTag.text ++ e.after)

/-- A value of `If-None-Match`. -/
inductive IfNoneMatch where
  | any
  | list (first : Element) (rest : List Element)

namespace IfNoneMatch

/-- The entity tags that are listed. -/
def elements : IfNoneMatch → List Element
  | any => []
  | list first rest => first :: rest

/-- The characters of a value: an asterisk, or the elements with commas between them. -/
def text : IfNoneMatch → List Char
  | any => ['*']
  | list first rest => [','].intercalate (first.text :: rest.map Element.text)

/-- An opaque tag is matched by `*`, and by a list with an entity tag of it. -/
def Matches (header : IfNoneMatch) (tag : List Char) : Prop :=
  header = any ∨ ∃ e ∈ header.elements, e.tag = tag

end IfNoneMatch

/-! ## Pieces of an element -/

namespace Element
variable {e : Element} {c : Char}

/-- A character of an element that is no blank and not of `W/""` is one of its opaque tag. -/
theorem mem_text (hblank : ¬ IsBlank c) (hc : c ∉ ['W', '/', '"']) : c ∈ e.text ↔ c ∈ e.tag := by
  have hbefore : c ∉ e.before := fun h => hblank (e.before_blank c h)
  have hafter : c ∉ e.after := fun h => hblank (e.after_blank c h)
  obtain ⟨hW, hslash, hquote⟩ : c ≠ 'W' ∧ c ≠ '/' ∧ c ≠ '"' := by simpa using hc
  cases hweak : e.weak <;>
    simp [text, EntityTag.text, hweak, hbefore, hafter, hW, hslash, hquote]

/-- An element without a comma in its opaque tag is one piece. -/
theorem splitOn_text (h : ',' ∉ e.tag) : e.text.splitOn ',' = [e.text] :=
  List.splitOn_eq_singleton fun hmem => h ((mem_text (by decide) (by decide)).1 hmem)

/-- A piece of an element with a comma in its opaque tag has one of the two quotes at most. -/
theorem count_quote_le_one (h : ',' ∈ e.tag) {t : List Char} (ht : t ∈ e.text.splitOn ',') :
    t.count '"' ≤ 1 := by
  have hblanks : ∀ {s : List Char}, (∀ c ∈ s, IsBlank c) → s.count '"' = 0 := fun hs =>
    List.count_eq_zero.2 fun hmem => absurd (hs _ hmem) (by decide)
  obtain ⟨u, v, htag⟩ := List.append_of_mem h
  have hnotMem := e.quote_notMem
  rw [htag, List.mem_append, List.mem_cons, not_or, not_or] at hnotMem
  have hsplit : e.text =
      (e.before ++ ((if e.weak then ['W', '/'] else []) ++ '"' :: u)) ++
        ',' :: (v ++ '"' :: e.after) := by
    simp [text, EntityTag.text, htag]
  rw [hsplit, List.splitOn_append_cons_self, List.mem_append] at ht
  rcases ht with ht | ht
  · refine le_of_le_of_eq (count_le_of_mem_splitOn '"' ht) ?_
    have hweak : (if e.weak then ['W', '/'] else []).count '"' = 0 := by cases e.weak <;> rfl
    rw [List.count_append, hblanks e.before_blank, List.count_append, hweak, List.count_cons_self,
      List.count_eq_zero.2 hnotMem.1]
  · refine le_of_le_of_eq (count_le_of_mem_splitOn '"' ht) ?_
    rw [List.count_append, List.count_cons_self, hblanks e.after_blank,
      List.count_eq_zero.2 hnotMem.2.2]

end Element

/-- A character of a list that is no blank and not of `W/"",` is one of an opaque tag. -/
theorem IfNoneMatch.mem_text_list {c : Char} {first : Element} {rest : List Element}
    (hblank : ¬ IsBlank c) (hc : c ∉ ['W', '/', '"', ',']) :
    c ∈ (list first rest).text ↔ ∃ e ∈ first :: rest, c ∈ e.tag := by
  obtain ⟨hW, hslash, hquote, hcomma⟩ : c ≠ 'W' ∧ c ≠ '/' ∧ c ≠ '"' ∧ c ≠ ',' := by simpa using hc
  have helement : ∀ e : Element, c ∈ e.text ↔ c ∈ e.tag := fun e =>
    Element.mem_text hblank (by simp [hW, hslash, hquote])
  have htexts : ∀ (rest : List Element) (first : Element),
      c ∈ [','].intercalate (first.text :: rest.map Element.text) ↔
        ∃ e ∈ first :: rest, c ∈ e.tag := by
    intro rest
    induction rest with
    | nil => simp [helement]
    | cons e rest ih =>
      intro first
      rw [List.map_cons, List.intercalate_cons_cons, List.mem_append, List.mem_append, ih, helement,
        List.mem_singleton, or_iff_left hcomma]
      simp
  exact htexts rest first

end EntityTags
