import Mathlib.Data.List.Sort
import Mathlib.Data.List.Nodup

/-!
# Tables with a primary key

A table is a list of rows no two of which share their key; the list order has no meaning to a query
and is the order of insertion. The operations are those of SQL on one table: lookup by key, update
in place, insert with an action on conflict, and a select with `WHERE`, `ORDER BY` and `LIMIT`.

The lemmas on `firstBy` are what a `LIMIT` gives: the rows taken are a lower set of the order
(`firstBy_lower`), and a select that comes back short came back whole (`firstBy_short`).
-/

namespace Relational

variable {ρ κ : Type}

/-- Rows with pairwise distinct keys. -/
structure Table (ρ κ : Type) (key : ρ → κ) where
  rows : List ρ
  nodup : (rows.map key).Nodup

namespace Table

variable {key : ρ → κ}

/-- The table without rows. -/
def empty : Table ρ κ key := ⟨[], .nil⟩

/-- The table of one row. -/
def single (r : ρ) : Table ρ κ key := ⟨[r], List.nodup_singleton _⟩

/-- The keys in use. -/
def keys (t : Table ρ κ key) : List κ := t.rows.map key

@[simp] theorem keys_empty : (empty : Table ρ κ key).keys = [] := rfl

@[simp] theorem keys_single (r : ρ) : (single r : Table ρ κ key).keys = [key r] := rfl

/-- A key is one of the table exactly when a row has it. -/
theorem mem_keys {t : Table ρ κ key} {k : κ} : k ∈ t.keys ↔ ∃ r ∈ t.rows, key r = k := by
  simp [keys]

/-- Two rows of a table with one key are one row. -/
theorem eq_of_key {t : Table ρ κ key} {a b : ρ} (ha : a ∈ t.rows) (hb : b ∈ t.rows)
    (h : key a = key b) : a = b :=
  List.inj_on_of_nodup_map t.nodup ha hb h

/-- `UPDATE ... SET`: every row goes through `f`, which leaves its key alone. -/
def update (t : Table ρ κ key) (f : ρ → ρ) (hf : ∀ r, key (f r) = key r) : Table ρ κ key where
  rows := t.rows.map f
  nodup := by
    have h : (t.rows.map f).map key = t.rows.map key := by simp [Function.comp_def, hf]
    rw [h]
    exact t.nodup

/-- The rows of an update are the updated rows, in their order. -/
@[simp] theorem update_rows (t : Table ρ κ key) (f : ρ → ρ) (hf : ∀ r, key (f r) = key r) :
    (t.update f hf).rows = t.rows.map f := rfl

/-- An update keeps the keys. -/
@[simp] theorem keys_update (t : Table ρ κ key) (f : ρ → ρ) (hf : ∀ r, key (f r) = key r) :
    (t.update f hf).keys = t.keys := by
  simp [keys, Function.comp_def, hf]

/-- `INSERT` of a row whose key is free. -/
def insert (t : Table ρ κ key) (r : ρ) (h : key r ∉ t.keys) : Table ρ κ key where
  rows := t.rows ++ [r]
  nodup := by
    rw [List.map_append, List.nodup_append]
    refine ⟨t.nodup, List.nodup_singleton _, fun a ha b hb hab => ?_⟩
    rw [List.map_singleton, List.mem_singleton] at hb
    exact h (hb ▸ hab ▸ ha)

/-- A new row comes behind the others. -/
@[simp] theorem insert_rows (t : Table ρ κ key) (r : ρ) (h : key r ∉ t.keys) :
    (t.insert r h).rows = t.rows ++ [r] := rfl

/-- Its key comes behind the others. -/
@[simp] theorem keys_insert (t : Table ρ κ key) (r : ρ) (h : key r ∉ t.keys) :
    (t.insert r h).keys = t.keys ++ [key r] := by
  simp [keys]

variable [DecidableEq κ]

/-- Lookup by primary key. -/
def find? (t : Table ρ κ key) (k : κ) : Option ρ := t.rows.find? fun r => key r = k

/-- The row that is found is the one with the key. There is no other, as keys are distinct. -/
theorem find?_eq_some {t : Table ρ κ key} {k : κ} {r : ρ} :
    t.find? k = some r ↔ r ∈ t.rows ∧ key r = k := by
  unfold find?
  refine ⟨fun h => ⟨List.mem_of_find?_eq_some h, by simpa using List.find?_some h⟩, ?_⟩
  rintro ⟨hr, hk⟩
  -- the row found has the key of `r`, and keys are distinct
  cases h : t.rows.find? fun r => decide (key r = k) with
  | none => exact absurd (decide_eq_true hk) (List.find?_eq_none.1 h r hr)
  | some q =>
    have hq : key q = k := by simpa using List.find?_some h
    rw [eq_of_key (List.mem_of_find?_eq_some h) hr (hq.trans hk.symm)]

/-- No row is found exactly when the key is not in the table. -/
theorem find?_eq_none {t : Table ρ κ key} {k : κ} : t.find? k = none ↔ k ∉ t.keys := by
  simp [find?, keys, List.find?_eq_none]

/-- The key of a row that a lookup finds is the key looked up. -/
theorem key_of_find? {t : Table ρ κ key} {k : κ} {r : ρ} (h : t.find? k = some r) : key r = k :=
  (find?_eq_some.1 h).2

/-- What is found is in the table. -/
theorem mem_of_find? {t : Table ρ κ key} {k : κ} {r : ρ} (h : t.find? k = some r) :
    r ∈ t.rows :=
  (find?_eq_some.1 h).1

/-- For a key of the table a row is found. -/
theorem exists_find? {t : Table ρ κ key} {k : κ} (h : k ∈ t.keys) : ∃ r, t.find? k = some r := by
  obtain ⟨r, hr, rfl⟩ := mem_keys.1 h
  exact ⟨r, find?_eq_some.2 ⟨hr, rfl⟩⟩

@[simp] theorem find?_empty (k : κ) : (empty : Table ρ κ key).find? k = none := rfl

/-- What is found after an update is what was found before, updated. -/
theorem find?_update (t : Table ρ κ key) (f : ρ → ρ) (hf : ∀ r, key (f r) = key r) (k : κ) :
    (t.update f hf).find? k = (t.find? k).map f := by
  have hkey : (fun r => decide (key r = k)) ∘ f = fun r => decide (key r = k) :=
    funext fun r => by rw [Function.comp_apply, hf]
  rw [find?, update_rows, List.find?_map, hkey, find?]

/-- After an insert the new row is found under its key, and what was found before under any other.
-/
theorem find?_insert (t : Table ρ κ key) (r : ρ) (h : key r ∉ t.keys) (k : κ) :
    (t.insert r h).find? k = if k = key r then some r else t.find? k := by
  have hn := find?_eq_none.2 h
  unfold find? at hn ⊢
  rw [insert_rows, List.find?_append]
  split
  · next he =>
    subst he
    rw [hn]
    simp
  · next he => simp [Ne.symm he]

/-- `INSERT ... ON CONFLICT (key) DO UPDATE`: the row is inserted when its key is free, and the row
in place goes through `onConflict` otherwise. -/
def upsert (t : Table ρ κ key) (r : ρ) (onConflict : ρ → ρ)
    (hf : ∀ r', key (onConflict r') = key r') : Table ρ κ key :=
  if h : key r ∈ t.keys then
    t.update (fun r' => if key r' = key r then onConflict r' else r') fun r' => by
      split
      · exact hf r'
      · rfl
  else t.insert r h

section
variable (t : Table ρ κ key) (r : ρ) (f : ρ → ρ) (hf : ∀ r', key (f r') = key r')

/-- What a lookup finds after an upsert. -/
theorem find?_upsert (k : κ) : (t.upsert r f hf).find? k =
    if k = key r then some ((t.find? k).elim r f) else t.find? k := by
  unfold upsert
  split
  · next h =>
    rw [find?_update]
    obtain ⟨r', hr'⟩ := exists_find? h
    split
    · next he =>
      subst he
      rw [hr', Option.map_some, if_pos (key_of_find? hr')]
      rfl
    · next he =>
      cases hk : t.find? k with
      | none => rfl
      | some q => rw [Option.map_some, if_neg (by rw [key_of_find? hk]; exact he)]
  · next h =>
    rw [find?_insert]
    split
    · next he =>
      subst he
      rw [find?_eq_none.2 h]
      rfl
    · rfl

/-- After an upsert the row of that key is the new one, or the old one changed. -/
theorem find?_upsert_self : (t.upsert r f hf).find? (key r) =
    some ((t.find? (key r)).elim r f) := by
  rw [find?_upsert, if_pos rfl]

/-- An upsert takes no row away. -/
theorem length_le_upsert : t.rows.length ≤ (t.upsert r f hf).rows.length := by
  unfold upsert
  split
  · rw [update_rows, List.length_map]
  · rw [insert_rows, List.length_append]
    exact Nat.le_add_right _ _

/-- An upsert adds the key when it is not there. -/
theorem mem_keys_upsert {k : κ} : k ∈ (t.upsert r f hf).keys ↔ k ∈ t.keys ∨ k = key r := by
  unfold upsert
  split
  · next h =>
    rw [keys_update]
    exact ⟨.inl, fun hk => hk.elim id fun e => e ▸ h⟩
  · rw [keys_insert, List.mem_append, List.mem_singleton]

end

end Table

/-! ## `ORDER BY` and `LIMIT` -/

section
variable {α : Type} (le : α → α → Prop) [DecidableRel le]

/-- `SELECT ... ORDER BY le LIMIT n` over the rows that a `WHERE` left. -/
def firstBy (n : Nat) (l : List α) : List α := (l.insertionSort le).take n

/-- What is selected is one of the elements. -/
theorem mem_of_mem_firstBy {n : Nat} {l : List α} {a : α} (h : a ∈ firstBy le n l) : a ∈ l :=
  (List.mem_insertionSort le).1 (List.mem_of_mem_take h)

/-- A select fills its limit when there are as many elements. -/
theorem firstBy_length (n : Nat) (l : List α) : (firstBy le n l).length = min n l.length := by
  rw [firstBy, List.length_take, List.length_insertionSort]

/-- A select that comes back with fewer rows than its limit has them all. -/
theorem firstBy_short {n : Nat} {l : List α} (h : (firstBy le n l).length < n) {a : α}
    (ha : a ∈ l) : a ∈ firstBy le n l := by
  rw [firstBy_length] at h
  rw [firstBy, List.take_of_length_le (by rw [List.length_insertionSort]; omega)]
  exact (List.mem_insertionSort le).2 ha

/-- A select commutes with a map that reflects the order. -/
theorem map_firstBy {β : Type} {le' : β → β → Prop} [DecidableRel le'] (f : α → β)
    (h : ∀ a b, le a b ↔ le' (f a) (f b)) (n : Nat) (l : List α) :
    (firstBy le n l).map f = firstBy le' n (l.map f) := by
  rw [firstBy, firstBy, List.map_take, List.map_insertionSort le le' f l fun a _ b _ => h a b]

variable [Std.Total le] [IsTrans α le]

/-- A row left out by the limit comes after every row taken. -/
theorem firstBy_le {n : Nat} {l : List α} {a b : α} (ha : a ∈ firstBy le n l) (hb : b ∈ l)
    (hn : b ∉ firstBy le n l) : le a b := by
  have hs := List.pairwise_insertionSort le l
  rw [← List.take_append_drop n (l.insertionSort le), List.pairwise_append] at hs
  have hb' : b ∈ l.insertionSort le := (List.mem_insertionSort le).2 hb
  rw [← List.take_append_drop n (l.insertionSort le), List.mem_append] at hb'
  exact hs.2.2 a ha b (hb'.resolve_left hn)

/-- What is selected comes in the order of the select. -/
theorem firstBy_pairwise (n : Nat) (l : List α) : (firstBy le n l).Pairwise le :=
  (List.pairwise_insertionSort le l).sublist (List.take_sublist _ _)

/-- The rows taken are a lower set: with a row, every row strictly before it is taken. -/
theorem firstBy_lower {n : Nat} {l : List α} {a b : α} (ha : a ∈ firstBy le n l) (hb : b ∈ l)
    (hba : ¬ le a b) : b ∈ firstBy le n l := by
  by_contra hn
  exact hba (firstBy_le le ha hb hn)

/-- A row is taken when no more rows than the limit come before it or are its equals. -/
theorem mem_firstBy_of_few {n : Nat} {l : List α} {a : α}
    (h : (l.filter fun b => le b a).length ≤ n) (ha : a ∈ l) : a ∈ firstBy le n l := by
  by_contra hn
  -- all the rows taken come before it, and it is one more
  have htaken : (firstBy le n l).filter (fun b => le b a) = firstBy le n l :=
    List.filter_eq_self.2 fun b hb => decide_eq_true (firstBy_le le hb ha hn)
  have hleft : a ∈ ((l.insertionSort le).drop n).filter fun b => le b a := by
    have hmem := (List.mem_insertionSort le).2 ha
    rw [← List.take_append_drop n (l.insertionSort le), List.mem_append] at hmem
    exact List.mem_filter.2 ⟨hmem.resolve_left hn, decide_eq_true (refl_of le a)⟩
  have hsplit : (l.filter fun b => le b a).length = (firstBy le n l).length +
      (((l.insertionSort le).drop n).filter fun b => le b a).length := by
    rw [← ((List.perm_insertionSort le l).filter _).length_eq,
      ← List.take_append_drop n (l.insertionSort le), List.filter_append, List.length_append,
      List.take_append_drop, ← htaken]
    rfl
  have hpos := List.length_pos_of_mem hleft
  have hshort : (firstBy le n l).length < n := by omega
  exact hn (firstBy_short le hshort ha)

/-- Among rows that are told apart by the order, a row is taken exactly when it is there and no more
rows than the limit come before it, itself included. -/
theorem mem_firstBy_iff {n : Nat} {l : List α} {a : α} (hl : l.Nodup)
    (hanti : ∀ b ∈ l, le a b → le b a → b = a) :
    a ∈ firstBy le n l ↔ a ∈ l ∧ (l.filter fun b => le b a).length ≤ n := by
  refine ⟨fun ha => ⟨mem_of_mem_firstBy le ha, ?_⟩, fun h => mem_firstBy_of_few le h.2 h.1⟩
  have hnodup : (l.insertionSort le).Nodup := (List.perm_insertionSort le l).nodup_iff.2 hl
  have hsorted := List.pairwise_insertionSort le l
  rw [← List.take_append_drop n (l.insertionSort le)] at hnodup hsorted
  -- a row left out that came before it would be its equal
  have hleft : ((l.insertionSort le).drop n).filter (fun b => le b a) = [] := by
    refine List.filter_eq_nil_iff.2 fun b hb hba => ?_
    have hmem : b ∈ l := (List.mem_insertionSort le).1 (List.mem_of_mem_drop hb)
    have hab := (List.pairwise_append.1 hsorted).2.2 a ha b hb
    have heq := hanti b hmem hab (of_decide_eq_true hba)
    subst heq
    exact (List.nodup_append.1 hnodup).2.2 b ha b hb rfl
  calc (l.filter fun b => le b a).length
      = ((l.insertionSort le).filter fun b => le b a).length :=
        ((List.perm_insertionSort le l).filter _).length_eq.symm
    _ = ((firstBy le n l).filter fun b => le b a).length := by
        rw [← List.take_append_drop n (l.insertionSort le), List.filter_append, hleft,
          List.append_nil]
        rfl
    _ ≤ (firstBy le n l).length := List.length_filter_le _ _
    _ ≤ n := by
        rw [firstBy_length]
        exact Nat.min_le_left _ _

/-- Every list but the empty one has a first element: the first of those that come before all
others. -/
theorem exists_first (a : α) (l : List α) : ∃ l₁ b l₂, a :: l = l₁ ++ b :: l₂ ∧
    (∀ c ∈ l₁, ¬ le c b) ∧ ∀ c ∈ l₂, le b c := by
  induction l generalizing a with
  | nil => exact ⟨[], a, [], rfl, List.forall_mem_nil _, List.forall_mem_nil _⟩
  | cons d l ih =>
    obtain ⟨l₁, b, l₂, heq, h₁, h₂⟩ := ih d
    rw [heq]
    by_cases hab : le a b
    · refine ⟨[], a, l₁ ++ b :: l₂, rfl, List.forall_mem_nil _, fun c hc => ?_⟩
      rcases List.mem_append.1 hc with hc | hc
      · exact trans_of le hab ((total_of le b c).resolve_right (h₁ c hc))
      · rcases List.mem_cons.1 hc with rfl | hc
        · exact hab
        · exact trans_of le hab (h₂ c hc)
    · exact ⟨a :: l₁, b, l₂, rfl, List.forall_mem_cons.2 ⟨hab, h₁⟩, h₂⟩

/-- The first row of a select: no row stored before it is its equal, and none stored after it comes
before it. -/
theorem head?_firstBy {l : List α} {a : α} : (firstBy le 1 l).head? = some a ↔
    ∃ l₁ l₂, l = l₁ ++ a :: l₂ ∧ (∀ b ∈ l₁, ¬ le b a) ∧ ∀ b ∈ l₂, le a b := by
  have hfirst : ∀ {l₁ l₂ : List α} {a : α}, (∀ b ∈ l₁, ¬ le b a) → (∀ b ∈ l₂, le a b) →
      ((l₁ ++ a :: l₂).insertionSort le).head? = some a := by
    intro l₁ l₂ a h₁ h₂
    induction l₁ with
    | nil =>
      rw [List.nil_append, List.insertionSort_cons]
      rcases hs : l₂.insertionSort le with _ | ⟨b, l⟩
      · rfl
      · have hb : b ∈ l₂ := (List.mem_insertionSort le).1 (hs ▸ .head _)
        rw [List.orderedInsert_cons, if_pos (h₂ b hb)]
        rfl
    | cons c l₁ ih =>
      obtain ⟨hc, h₁⟩ := List.forall_mem_cons.1 h₁
      rw [List.cons_append, List.insertionSort_cons]
      have ih := ih h₁
      rcases hs : (l₁ ++ a :: l₂).insertionSort le with _ | ⟨b, l⟩ <;> rw [hs] at ih
      · cases ih
      · cases ih
        rw [List.orderedInsert_cons, if_neg hc]
        rfl
  have hhead : (firstBy le 1 l).head? = (l.insertionSort le).head? := by
    rw [firstBy, List.head?_take, if_neg Nat.one_ne_zero]
  rw [hhead]
  refine ⟨fun h => ?_, ?_⟩
  · cases l with
    | nil => cases h
    | cons c l =>
      obtain ⟨l₁, b, l₂, heq, h₁, h₂⟩ := exists_first le c l
      rw [heq, hfirst h₁ h₂] at h
      cases h
      exact ⟨l₁, l₂, heq, h₁, h₂⟩
  · rintro ⟨l₁, l₂, rfl, h₁, h₂⟩
    exact hfirst h₁ h₂

/-- In a list against the order, the first by the order is the last of the list. -/
theorem head?_firstBy_of_pairwise {l : List α} (h : l.Pairwise fun a b => ¬ le a b) :
    (firstBy le 1 l).head? = l.getLast? := by
  rcases l.eq_nil_or_concat with rfl | ⟨l', m, rfl⟩
  · rfl
  rw [List.concat_eq_append] at h ⊢
  rw [List.getLast?_concat, head?_firstBy]
  exact ⟨l', [], rfl, fun b hb => (List.pairwise_append.1 h).2.2 b hb m (.head _),
    List.forall_mem_nil _⟩

/-! ## What a select may answer -/

omit [DecidableRel le] [Std.Total le] [IsTrans α le] in
/-- What `SELECT ... ORDER BY le LIMIT n` may come back with over these rows: rows that the order
does not tell apart come in any order, and the limit may cut between them anywhere. -/
structure IsSelect (n : Nat) (l shown : List α) : Prop where
  sorted : shown.Pairwise le
  rest : ∃ rest, l.Perm (shown ++ rest) ∧ ∀ a ∈ shown, ∀ b ∈ rest, le a b
  length : shown.length = min n l.length

/-- The first elements in order are what such a select may return. -/
theorem isSelect_firstBy (n : Nat) (l : List α) : IsSelect le n l (firstBy le n l) where
  sorted := firstBy_pairwise le n l
  rest := by
    refine ⟨(l.insertionSort le).drop n, ?_, ?_⟩
    · rw [firstBy, List.take_append_drop]
      exact (List.perm_insertionSort le l).symm
    · have hs := List.pairwise_insertionSort le l
      rw [← List.take_append_drop n (l.insertionSort le), List.pairwise_append] at hs
      exact hs.2.2
  length := firstBy_length le n l

section
variable {le} {n : Nat} {l l' shown : List α}

omit [DecidableRel le] [Std.Total le] [IsTrans α le] in
/-- Where the rows are stored does not matter. -/
theorem IsSelect.of_perm (h : IsSelect le n l shown) (hperm : l.Perm l') :
    IsSelect le n l' shown := by
  obtain ⟨rest, hrest, hle⟩ := h.rest
  exact ⟨h.sorted, ⟨rest, hperm.symm.trans hrest, hle⟩, by rw [h.length, hperm.length_eq]⟩

omit [DecidableRel le] [Std.Total le] [IsTrans α le] in
/-- A select of rows selects what a map that keeps the order makes of them. -/
theorem IsSelect.map {β : Type} {le' : β → β → Prop} {f : α → β}
    (hf : ∀ a b, le a b → le' (f a) (f b)) (h : IsSelect le n l shown) :
    IsSelect le' n (l.map f) (shown.map f) := by
  obtain ⟨rest, hrest, hle⟩ := h.rest
  refine ⟨List.pairwise_map.2 (h.sorted.imp (hf _ _)), ⟨rest.map f, ?_, ?_⟩, ?_⟩
  · rw [← List.map_append]
    exact hrest.map f
  · exact List.forall_mem_map.2 fun a ha =>
      List.forall_mem_map.2 fun b hb => hf a b (hle a ha b hb)
  · rw [List.length_map, List.length_map, h.length]

/-- When the order tells all rows apart a select has one answer. -/
theorem IsSelect.eq_firstBy (h : IsSelect le n l shown)
    (hanti : ∀ a ∈ l, ∀ b ∈ l, le a b → le b a → a = b) : shown = firstBy le n l := by
  obtain ⟨rest, hperm, hle⟩ := h.rest
  have hsorted : (shown ++ rest.insertionSort le).Pairwise le :=
    List.pairwise_append.2 ⟨h.sorted, List.pairwise_insertionSort le rest,
      fun a ha b hb => hle a ha b ((List.mem_insertionSort le).1 hb)⟩
  have hall : (shown ++ rest.insertionSort le).Perm l :=
    ((List.perm_insertionSort le rest).append_left shown).trans hperm.symm
  have heq : shown ++ rest.insertionSort le = l.insertionSort le := by
    refine List.Perm.eq_of_pairwise (fun a b ha hb => ?_) hsorted
      (List.pairwise_insertionSort le l) (hall.trans (List.perm_insertionSort le l).symm)
    exact hanti a (hall.mem_iff.1 ha) b ((List.mem_insertionSort le).1 hb)
  rw [firstBy, ← heq]
  rcases Nat.le_total n l.length with hn | hn
  · rw [List.take_left' (h.length.trans (Nat.min_eq_left hn))]
  · -- nothing is left out
    have hlen := hperm.length_eq
    rw [List.length_append, h.length, Nat.min_eq_right hn] at hlen
    obtain rfl := List.length_eq_zero_iff.1 (Nat.add_left_cancel hlen.symm : rest.length = 0)
    rw [List.insertionSort_nil, List.append_nil, List.take_of_length_le]
    rw [h.length]
    exact Nat.min_le_left _ _

omit [DecidableRel le] [Std.Total le] [IsTrans α le] in
/-- Without a limit every row is taken. -/
theorem IsSelect.perm (h : IsSelect le l.length l shown) : shown.Perm l := by
  obtain ⟨rest, hperm, -⟩ := h.rest
  have hlen := hperm.length_eq
  rw [List.length_append, h.length, Nat.min_self] at hlen
  obtain rfl := List.length_eq_zero_iff.1 (Nat.add_left_cancel hlen.symm : rest.length = 0)
  rw [List.append_nil] at hperm
  exact hperm.symm

end

end

end Relational
