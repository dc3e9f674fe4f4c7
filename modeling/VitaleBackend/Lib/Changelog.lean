import Mathlib.Data.List.Basic

/-!
# A log of versions and of their changes

Versions of many keys arrive in one stream. A log keeps each version once and records the changes
between a version and the one of its key that it replaces; a version that is the latest of its key
already is left out. `exact_record` is what such a log is for: when a version is only ever repeated
while it is the latest of its key, the log has the distinct versions of each key in the order of
their arrival, and the changes of each pair of neighbours, once.
-/

namespace Changelog

variable {α κ ε : Type}

/-! ## Neighbours -/

/-- The pairs of neighbours of a list. -/
def neighbours (l : List α) : List (α × α) := l.zip l.tail

@[simp] theorem neighbours_nil : neighbours ([] : List α) = [] := rfl
@[simp] theorem neighbours_singleton (a : α) : neighbours [a] = [] := rfl
@[simp] theorem neighbours_cons_cons (a b : α) (l : List α) :
    neighbours (a :: b :: l) = (a, b) :: neighbours (b :: l) := rfl

/-- A new last element has one new pair, with the one that was last. -/
theorem neighbours_concat (l : List α) (a : α) :
    neighbours (l ++ [a]) = neighbours l ++ (l.getLast?.map fun p => (p, a)).toList := by
  induction l with
  | nil => rfl
  | cons b l ih =>
    cases l with
    | nil => rfl
    | cons c l =>
      rw [List.cons_append, List.cons_append, neighbours_cons_cons, ← List.cons_append, ih,
        neighbours_cons_cons, List.getLast?_cons_cons]
      rfl

/-! ## Streams -/

variable [DecidableEq κ] (key : α → κ)

/-- The versions of one key. -/
def versionsOf (k : κ) (l : List α) : List α := l.filter (key · = k)

/-- The latest version of one key. -/
def latest (k : κ) (stream : List α) : Option α := (versionsOf key k stream).getLast?

/-- A version is only repeated while it is the latest of its key. -/
inductive RepeatsLatest : List α → Prop
  | nil : RepeatsLatest []
  | repeated {stream : List α} {a : α} : RepeatsLatest stream →
      latest key (key a) stream = some a → RepeatsLatest (stream ++ [a])
  | new {stream : List α} {a : α} : RepeatsLatest stream → a ∉ stream →
      RepeatsLatest (stream ++ [a])

section
variable {key} {k : κ} {a : α} {l : List α}

/-- The versions of a key are the elements that have it. -/
theorem mem_versionsOf : a ∈ versionsOf key k l ↔ a ∈ l ∧ key a = k := by
  simp [versionsOf]

/-- A version of the key comes behind the others of it. -/
theorem versionsOf_concat_self (l : List α) (a : α) :
    versionsOf key (key a) (l ++ [a]) = versionsOf key (key a) l ++ [a] := by
  simp [versionsOf]

/-- A version of another key leaves a key alone. -/
theorem versionsOf_concat_ne (h : key a ≠ k) (l : List α) :
    versionsOf key k (l ++ [a]) = versionsOf key k l := by
  simp [versionsOf, h]

/-- A version of the key is the latest of it from then on. -/
theorem latest_concat_self (l : List α) (a : α) : latest key (key a) (l ++ [a]) = some a := by
  rw [latest, versionsOf_concat_self, List.getLast?_concat]

/-- The latest version of a key is one of its versions. -/
theorem latest_mem (h : latest key k l = some a) : a ∈ l ∧ key a = k :=
  mem_versionsOf.1 (List.mem_of_getLast? h)

/-- A version of another key leaves what is latest alone. -/
theorem latest_concat_ne (h : key a ≠ k) (l : List α) :
    latest key k (l ++ [a]) = latest key k l := by
  rw [latest, versionsOf_concat_ne h, latest]

end

variable [DecidableEq α]

/-- The distinct versions of one key, in the order of their first arrival. -/
def history (k : κ) (stream : List α) : List α := (versionsOf key k stream).eraseDups

section
variable {key} {k : κ} {a : α} {l : List α}

/-- A repeated version adds nothing to a history. -/
theorem history_concat_of_mem (h : a ∈ l) :
    history key (key a) (l ++ [a]) = history key (key a) l := by
  have hmem : a ∈ versionsOf key (key a) l := mem_versionsOf.2 ⟨h, rfl⟩
  rw [history, versionsOf_concat_self, List.eraseDups_append]
  simp [List.removeAll, hmem, history]

/-- A new version is last in its history. -/
theorem history_concat_of_not_mem (h : a ∉ l) :
    history key (key a) (l ++ [a]) = history key (key a) l ++ [a] := by
  have hmem : a ∉ versionsOf key (key a) l := fun ha => h (mem_versionsOf.1 ha).1
  rw [history, versionsOf_concat_self, List.eraseDups_append]
  simp [List.removeAll, hmem, history, List.eraseDups_cons]

/-- A version of another key leaves the history of a key alone. -/
theorem history_concat_ne (h : key a ≠ k) (l : List α) :
    history key k (l ++ [a]) = history key k l := by
  rw [history, versionsOf_concat_ne h, history]

end

/-! ## The log -/

/-- Versions, and the changes recorded between them. -/
structure Log (α ε : Type) where
  versions : List α
  changes : List ε

/-- The log without versions. -/
def Log.empty : Log α ε := ⟨[], []⟩

variable (diff : α → α → List ε)

/-- One version arrives. -/
def Log.put (log : Log α ε) (a : α) : Log α ε :=
  match latest key (key a) log.versions with
  | none => ⟨log.versions ++ [a], log.changes⟩
  | some p => if p = a then log else ⟨log.versions ++ [a], log.changes ++ diff p a⟩

/-- The log of a stream. -/
def record (stream : List α) : Log α ε := stream.foldl (Log.put key diff) .empty

@[simp] theorem record_nil : record key diff [] = (.empty : Log α ε) := rfl

/-- The record of a stream is made version by version. -/
theorem record_concat (stream : List α) (a : α) :
    record key diff (stream ++ [a]) = (record key diff stream).put key diff a := by
  rw [record, List.foldl_append]
  rfl

section
variable {key diff} {log : Log α ε} {a : α}

/-- A version that is the latest of its key already changes nothing. -/
theorem put_repeated (h : latest key (key a) log.versions = some a) : log.put key diff a = log := by
  rw [Log.put, h]
  exact if_pos rfl

/-- A version that is not the latest of its key is logged, with its changes from that one. -/
theorem put_new (h : latest key (key a) log.versions ≠ some a) : log.put key diff a =
    ⟨log.versions ++ [a], log.changes ++ (latest key (key a) log.versions).elim [] (diff · a)⟩ := by
  unfold Log.put
  cases hlast : latest key (key a) log.versions with
  | none => simp
  | some p =>
    rw [hlast] at h
    exact if_neg fun hp => h (congrArg some hp)

end

/-- What the log of a stream owes: the histories, and the changes of the neighbours in them. Changes
carry the key of the versions they are about. -/
structure Exact (ekey : ε → κ) (log : Log α ε) (stream : List α) : Prop where
  versions : ∀ k, versionsOf key k log.versions = history key k stream
  latest : ∀ k, latest key k log.versions = latest key k stream
  changes : ∀ k, log.changes.filter (ekey · = k) =
    (neighbours (history key k stream)).flatMap fun (p, a) => diff p a

section
variable {key diff} {ekey : ε → κ} {log : Log α ε} {stream : List α} {a : α}

/-- The latest version arrives again. -/
theorem Exact.put_repeated (h : Exact key diff ekey log stream)
    (hlast : Changelog.latest key (key a) stream = some a) :
    Exact key diff ekey (log.put key diff a) (stream ++ [a]) := by
  rw [Changelog.put_repeated ((h.latest _).trans hlast)]
  have hhist : ∀ k, history key k (stream ++ [a]) = history key k stream := by
    intro k
    by_cases hk : key a = k
    · subst hk
      exact history_concat_of_mem (latest_mem hlast).1
    · exact history_concat_ne hk stream
  refine ⟨fun k => ?_, fun k => ?_, fun k => ?_⟩
  · rw [hhist, h.versions]
  · by_cases hk : key a = k
    · subst hk
      rw [latest_concat_self, h.latest, hlast]
    · rw [latest_concat_ne hk, h.latest]
  · rw [hhist, h.changes]

/-- A version arrives for the first time. -/
theorem Exact.put_new (hkey : ∀ p a, ∀ e ∈ diff p a, ekey e = key a)
    (h : Exact key diff ekey log stream) (hmem : a ∉ stream) :
    Exact key diff ekey (log.put key diff a) (stream ++ [a]) := by
  have hne : Changelog.latest key (key a) log.versions ≠ some a := by
    rw [h.latest]
    exact fun hlast => hmem (latest_mem hlast).1
  -- what is logged are the changes from the last of the history
  have hlast : Changelog.latest key (key a) log.versions =
      (history key (key a) stream).getLast? := by
    rw [Changelog.latest, h.versions]
  rw [Changelog.put_new hne, hlast]
  refine ⟨fun k => ?_, fun k => ?_, fun k => ?_⟩
  · by_cases hk : key a = k
    · subst hk
      rw [versionsOf_concat_self, h.versions, history_concat_of_not_mem hmem]
    · rw [versionsOf_concat_ne hk, h.versions, history_concat_ne hk]
  · by_cases hk : key a = k
    · subst hk
      rw [latest_concat_self, latest_concat_self]
    · rw [latest_concat_ne hk, latest_concat_ne hk, h.latest]
  · rw [List.filter_append, h.changes]
    by_cases hk : key a = k
    · subst hk
      rw [history_concat_of_not_mem hmem, neighbours_concat, List.flatMap_append]
      congr 1
      cases (history key (key a) stream).getLast? with
      | none => rfl
      | some p =>
        have hself : (diff p a).filter (ekey · = key a) = diff p a :=
          List.filter_eq_self.2 fun e he => decide_eq_true (hkey p a e he)
        simpa using hself
    · rw [history_concat_ne hk]
      cases (history key (key a) stream).getLast? with
      | none => exact List.append_nil _
      | some p =>
        have hnil : (diff p a).filter (ekey · = k) = [] := List.filter_eq_nil_iff.2 fun e he => by
          rw [hkey p a e he]
          simpa using hk
        rw [Option.elim_some, hnil, List.append_nil]

/-- A stream whose versions are repeated only while they are the latest has its history recorded. -/
theorem exact_record (hkey : ∀ p a, ∀ e ∈ diff p a, ekey e = key a) (h : RepeatsLatest key stream) :
    Exact key diff ekey (record key diff stream) stream := by
  induction h with
  | nil => exact ⟨fun k => rfl, fun k => rfl, fun k => rfl⟩
  | repeated _ hlast ih =>
    rw [record_concat]
    exact ih.put_repeated hlast
  | new _ hmem ih =>
    rw [record_concat]
    exact ih.put_new hkey hmem

/-- Every version logged has arrived. -/
theorem Exact.mem (h : Exact key diff ekey log stream) (ha : a ∈ log.versions) : a ∈ stream := by
  have hmem : a ∈ history key (key a) stream := by
    rw [← h.versions]
    exact mem_versionsOf.2 ⟨ha, rfl⟩
  rw [history, List.mem_eraseDups] at hmem
  exact (mem_versionsOf.1 hmem).1

end

end Changelog
