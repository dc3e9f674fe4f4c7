import Mathlib.Data.List.Infix

/-!
# `LIKE`

A pattern of SQL's `LIKE`: `%` stands for any text, `_` for any character, and a backslash takes the
meaning of the character after it away. A text that is put in front of `%` to ask for its
continuations is read as a pattern too, and means itself only when it has none of the three
(`likes_of_literal`, `literal_of_continues`).
-/

namespace Like

/-- What a part of a pattern stands for. -/
inductive Item where
  | char (c : Char)
  | one
  | any
  deriving DecidableEq

/-- The parts of a pattern, when it does not end with an escape. -/
def parse : List Char → Option (List Item)
  | [] => some []
  | '%' :: p => (parse p).map (.any :: ·)
  | '_' :: p => (parse p).map (.one :: ·)
  | ['\\'] => none
  | '\\' :: c :: p => (parse p).map (.char c :: ·)
  | c :: p => (parse p).map (.char c :: ·)

/-- A text is of the form of some parts. -/
def Matches : List Item → List Char → Prop
  | [], s => s = []
  | .char c :: p, s => ∃ t, s = c :: t ∧ Matches p t
  | .one :: p, s => ∃ c t, s = c :: t ∧ Matches p t
  | .any :: p, s => ∃ t, t <:+ s ∧ Matches p t

/-- `text LIKE pattern`. -/
def Likes (text pattern : List Char) : Prop := ∃ p, parse pattern = some p ∧ Matches p text

/-- Decided along the pattern: `%` tries every end of the text. -/
instance decidableMatches : (p : List Item) → (s : List Char) → Decidable (Matches p s)
  | [], s => inferInstanceAs (Decidable (s = []))
  | .char c :: p, s =>
    match s with
    | [] => .isFalse nofun
    | d :: t =>
      haveI := decidableMatches p t
      decidable_of_iff (d = c ∧ Matches p t) <| by
        constructor
        · rintro ⟨rfl, h⟩
          exact ⟨t, rfl, h⟩
        · rintro ⟨_, ⟨⟩, h⟩
          exact ⟨rfl, h⟩
  | .one :: p, s =>
    match s with
    | [] => .isFalse nofun
    | d :: t =>
      haveI := decidableMatches p t
      decidable_of_iff (Matches p t) <| by
        constructor
        · exact fun h => ⟨d, t, rfl, h⟩
        · rintro ⟨_, _, ⟨⟩, h⟩
          exact h
  | .any :: p, s =>
    haveI := decidableMatches p
    decidable_of_iff (∃ t ∈ s.tails, Matches p t) <| by
      simp only [List.mem_tails]
      rfl

/-- Decided by reading the pattern, which may be ill-formed, and matching it. -/
instance (text pattern : List Char) : Decidable (Likes text pattern) :=
  match h : parse pattern with
  | none => .isFalse fun ⟨_, hp, _⟩ => nomatch h.symm.trans hp
  | some p => decidable_of_iff (Matches p text) <| by
      constructor
      · exact fun hm => ⟨p, h, hm⟩
      · rintro ⟨p', hp', hm⟩
        cases h.symm.trans hp'
        exact hm

/-- The character has no meaning of its own in a pattern. -/
def Plain (c : Char) : Prop := c ≠ '%' ∧ c ≠ '_' ∧ c ≠ '\\'

/-- Decided by its three conditions. -/
instance (c : Char) : Decidable (Plain c) := inferInstanceAs (Decidable (_ ∧ _))

/-- No character of the text has a meaning of its own in a pattern. -/
def Literal (q : List Char) : Prop := ∀ c ∈ q, Plain c

/-- Decided character by character. -/
instance (q : List Char) : Decidable (Literal q) := inferInstanceAs (Decidable (∀ c ∈ q, Plain c))

/-- A plain character of a pattern stands for itself. -/
theorem parse_cons {c : Char} (h : Plain c) (p : List Char) :
    parse (c :: p) = (parse p).map (.char c :: ·) := by
  obtain ⟨h₁, h₂, h₃⟩ := h
  rw [parse.eq_def]
  split <;> simp_all

/-- The induction along which a pattern is read. -/
theorem pattern_induction {motive : List Char → Prop} (nil : motive [])
    (any : ∀ q, motive q → motive ('%' :: q)) (one : ∀ q, motive q → motive ('_' :: q))
    (escape_nil : motive ['\\']) (escape : ∀ c q, motive q → motive ('\\' :: c :: q))
    (char : ∀ c q, Plain c → motive q → motive (c :: q)) (q : List Char) : motive q := by
  induction q using parse.induct with
  | case1 => exact nil
  | case2 q ih => exact any q ih
  | case3 q ih => exact one q ih
  | case4 => exact escape_nil
  | case5 c q ih => exact escape c q ih
  | case6 c q h₁ h₂ h₃ h₄ ih =>
    refine char c q ⟨h₁, h₂, ?_⟩ ih
    rintro rfl
    cases q with
    | nil => exact h₃ rfl rfl
    | cons c q => exact h₄ c q rfl rfl

/-! ## What starts with a text -/

/-- A shortest text of the form of some parts. -/
def shortest : List Item → List Char
  | [] => []
  | .char c :: p => c :: shortest p
  | .one :: p => '%' :: shortest p
  | .any :: p => shortest p

/-- Such a text has the form that it is made for. -/
theorem matches_shortest : ∀ p, Matches p (shortest p)
  | [] => rfl
  | .char _ :: p => ⟨_, rfl, matches_shortest p⟩
  | .one :: p => ⟨_, _, rfl, matches_shortest p⟩
  | .any :: p => ⟨_, List.suffix_refl _, matches_shortest p⟩

/-- In front of `%` every text is a pattern. A shortest text that it matches is no longer than it,
has no other characters, and is the text itself only when that is literal. -/
theorem exists_parse (q : List Char) : ∃ p, parse (q ++ ['%']) = some p ∧
    (shortest p).length ≤ q.length ∧ (∀ c ∈ shortest p, c = '%' ∨ c ∈ q) ∧
      (shortest p = q → Literal q) := by
  induction q using pattern_induction with
  | nil => exact ⟨[.any], rfl, le_refl _, List.forall_mem_nil _, fun _ => List.forall_mem_nil _⟩
  | any q ih =>
    obtain ⟨p, hp, hlen, hmem, -⟩ := ih
    refine ⟨.any :: p, by rw [List.cons_append, parse, hp]; rfl, Nat.le_succ_of_le hlen,
      fun c hc => (hmem c hc).imp_right (.tail _), fun h => ?_⟩
    have hlong : (shortest p).length = q.length + 1 := congrArg List.length h
    omega
  | one q ih =>
    obtain ⟨p, hp, hlen, hmem, -⟩ := ih
    refine ⟨.one :: p, by rw [List.cons_append, parse, hp]; rfl, Nat.succ_le_succ hlen,
      List.forall_mem_cons.2 ⟨.inl rfl, fun c hc => (hmem c hc).imp_right (.tail _)⟩, fun h => ?_⟩
    exact absurd (List.cons.inj h).1 (by decide)
  | escape_nil =>
    exact ⟨[.char '%'], rfl, le_refl _, List.forall_mem_singleton.2 (.inl rfl),
      fun h => absurd (List.cons.inj h).1 (by decide)⟩
  | escape c q ih =>
    obtain ⟨p, hp, hlen, hmem, -⟩ := ih
    refine ⟨.char c :: p, by rw [List.cons_append, List.cons_append, parse, hp]; rfl,
      Nat.le_succ_of_le (Nat.succ_le_succ hlen), List.forall_mem_cons.2 ⟨.inr (.tail _ (.head _)),
        fun c hc => (hmem c hc).imp_right fun hq => .tail _ (.tail _ hq)⟩, fun h => ?_⟩
    have hlong : (shortest p).length + 1 = q.length + 2 := congrArg List.length h
    omega
  | char c q hc ih =>
    obtain ⟨p, hp, hlen, hmem, hlit⟩ := ih
    refine ⟨.char c :: p, by rw [List.cons_append, parse_cons hc, hp]; rfl, Nat.succ_le_succ hlen,
      List.forall_mem_cons.2 ⟨.inr (.head _), fun c hc => (hmem c hc).imp_right (.tail _)⟩, ?_⟩
    exact fun h => List.forall_mem_cons.2 ⟨hc, hlit (List.cons.inj h).2⟩

/-- A literal text in front of `%` asks for its continuations. -/
theorem likes_of_literal {q : List Char} (h : Literal q) (s : List Char) :
    Likes s (q ++ ['%']) ↔ q <+: s := by
  induction q generalizing s with
  | nil =>
    refine iff_of_true ⟨[.any], rfl, [], List.nil_suffix, rfl⟩ List.nil_prefix
  | cons c q ih =>
    obtain ⟨hc, hq⟩ := List.forall_mem_cons.1 h
    rw [List.cons_append, Likes, parse_cons hc]
    constructor
    · rintro ⟨p, hp, hm⟩
      obtain ⟨p', hp', rfl⟩ := Option.map_eq_some_iff.1 hp
      obtain ⟨t, rfl, hm⟩ := hm
      exact List.cons_prefix_cons.2 ⟨rfl, (ih hq t).1 ⟨p', hp', hm⟩⟩
    · intro hpre
      obtain ⟨t, rfl⟩ := hpre
      obtain ⟨p, hp, hm⟩ := (ih hq (q ++ t)).2 (List.prefix_append _ _)
      exact ⟨.char c :: p, by rw [hp]; rfl, q ++ t, rfl, hm⟩

/-- A text is literal when what it matches in front of `%` starts with it: otherwise it matches a
text that is no longer, and is another one. -/
theorem literal_of_continues {q : List Char}
    (h : ∀ s, (∀ c ∈ s, c = '%' ∨ c ∈ q) → Likes s (q ++ ['%']) → q <+: s) : Literal q := by
  obtain ⟨p, hp, hlen, hmem, hlit⟩ := exists_parse q
  have hstarts : q <+: shortest p := h _ hmem ⟨p, hp, matches_shortest p⟩
  exact hlit (hstarts.eq_of_length_le hlen).symm

end Like
