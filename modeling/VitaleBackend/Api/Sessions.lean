import VitaleBackend.Api.Detail
import VitaleBackend.Api.Events
import VitaleBackend.Api.Search
import VitaleBackend.Api.Stats

/-!
# All endpoints together

A client asks several endpoints in turn, while pollers and other clients commit between its requests
and between the statements of one of them. An answer shows some facts about the tables and denies
others, and no answer denies what one has shown before, whichever endpoints they come from
(`shown_never_denied`). Answers with a status 200 or 404 say something about the tables, all others
say nothing.
-/

namespace VitaleBackend

open Relational Moments

/-! ## Facts -/

/-- What an answer can say about the tables. -/
inductive Fact where
  /-- the object is in the catalogue -/
  | listed (noradCatId : Int)
  /-- the object has these columns, which no poller writes -/
  | columns (noradCatId : Int) (columns : FixedColumns)
  /-- the object was viewed at least so often -/
  | hits (noradCatId : Int) (count : Int)
  /-- a snapshot of the object is stored that is no older than this -/
  | snapshot (noradCatId : Int) (epoch : Timestamp)
  /-- this event of the object is recorded -/
  | event (noradCatId : Int) (event : EventRow)
  /-- so many events of the object are recorded -/
  | eventCount (noradCatId : Int) (count : Nat)
  /-- so many objects are in the catalogue -/
  | tracked (count : Nat)
  /-- so many objects have a snapshot -/
  | covered (count : Nat)

/-- The tables are as the fact says. -/
def Fact.Holds (db : Database) : Fact → Prop
  | listed n => n ∈ db.objects.keys
  | columns n c => ∃ row, db.objects.find? n = some row ∧ row.fixed = c
  | hits n k => ∃ row, db.objects.find? n = some row ∧ k ≤ row.hitCount
  | snapshot n t => ∃ row ∈ db.snapshots, row.noradCatId = n ∧ t ≤ row.epoch
  | event n e => e ∈ db.audtEvents ∧ e.noradCatId = n
  | eventCount n k => k ≤ (eventRows n db).length
  | tracked k => k ≤ trackedObjects db
  | covered k => k ≤ objectsWithSnapshot db

/-- A fact stays true when the tables grow. -/
theorem Fact.Holds.mono {db db' : Database} {f : Fact} (hf : f.Holds db) (h : db.Grows db') :
    f.Holds db' := by
  cases f with
  | listed n => exact h.objects.mem_keys hf
  | columns n c =>
    obtain ⟨row, hrow, hc⟩ := hf
    obtain ⟨row', hrow', hlives⟩ := h.objects n row hrow
    exact ⟨row', hrow', hlives.fixed.trans hc⟩
  | hits n k =>
    obtain ⟨row, hrow, hk⟩ := hf
    obtain ⟨row', hrow', hlives⟩ := h.objects n row hrow
    exact ⟨row', hrow', hk.trans hlives.hitCount⟩
  | snapshot n t =>
    obtain ⟨row, hrow, ht⟩ := hf
    exact ⟨row, h.snapshots.subset hrow, ht⟩
  | event n e => exact ⟨h.audtEvents.subset hf.1, hf.2⟩
  | eventCount n k =>
    exact le_trans (show k ≤ (eventRows n db).length from hf) (eventRows_subperm h n).length_le
  | tracked k => exact le_trans (show k ≤ trackedObjects db from hf) (trackedObjects_mono h)
  | covered k =>
    exact le_trans (show k ≤ objectsWithSnapshot db from hf) (objectsWithSnapshot_mono h)

/-! ## Answers -/

/-- The endpoints: a search with its text, and the ranked lists with the limit of their query. -/
inductive Get where
  | objects
  | search (text : String)
  | popular (limit : Nat)
  | topEvents (limit : Nat)
  | catalog
  | object (noradCatId : Int)
  | snapshot (noradCatId : Int)
  | events (noradCatId : Int)
  | stats

/-- What the statements of a request come back with, before it is printed. -/
inductive Answer where
  /-- of `/objects` -/
  | all (rows : List ObjectRow)
  /-- of `/objects/search`: each row has the number of all that match -/
  | search (text : String) (rows : List (ObjectRow × Nat))
  | popular (limit : Nat) (rows : List ObjectRow)
  /-- of `/objects/top-events`: each row has its `event_count` -/
  | topEvents (limit : Nat) (rows : List (ObjectRow × Nat))
  /-- of `/objects/catalog`, with the `count` of its first select -/
  | catalog (count : Nat) (rows : List ObjectRow)
  | object (noradCatId : Int) (row : Option ObjectRow)
  | snapshot (noradCatId : Int) (answer : SnapshotAnswer)
  | events (noradCatId : Int) (rows : List EventRow)
  | stats (trackedObjects objectsWithSnapshot : Nat)
  /-- a status 304, 400 or 500 -/
  | silent

/-- A request, the tables when it comes in and when it is over, and its answer. -/
structure Request where
  get : Get
  first : Database
  last : Database
  answer : Answer

/-- The answer is what the statements of the handler find, each in tables that are there at some
moment of the request. Only `/objects/<int>` changes them, in the transaction whose row it returns.
A request that is refused, fails or is answered with 304 comes back with nothing. -/
inductive Request.Handled (X : Externals) (T : TextSearch) : Request → Prop
  | objects {a b c : Database} (hb : Commits X a b) (hc : Commits X b c) :
      Handled X T ⟨.objects, a, c, .all (b.objects.rows.insertionSort Sql.byNoradCatId)⟩
  | search {a b c : Database} (text : String) (hb : Commits X a b) (hc : Commits X b c) :
      Handled X T ⟨.search text, a, c, .search text (searchRows T text b)⟩
  | popular {a b c : Database} (limit : Nat) (hb : Commits X a b) (hc : Commits X b c) :
      Handled X T ⟨.popular limit, a, c,
        .popular limit (firstBy mostHitsFirst limit b.objects.rows)⟩
  | topEvents {a b c : Database} (limit : Nat) (hb : Commits X a b) (hc : Commits X b c) :
      Handled X T ⟨.topEvents limit, a, c,
        .topEvents limit ((topEventsRows b limit).map fun row => (row, eventCount b row))⟩
  | catalog {a b b' c : Database} (hb : Commits X a b) (hb' : Commits X b b')
      (hc : Commits X b' c) : Handled X T ⟨.catalog, a, c,
        .catalog b.objects.rows.length (b'.objects.rows.insertionSort Sql.byNoradCatId)⟩
  | object {a b c : Database} (n : Int) (hb : Commits X a b)
      (hc : Commits X (Sql.countHit n b) c) :
      Handled X T ⟨.object n, a, c, .object n (returnedRow n b)⟩
  | snapshot {a b b' c : Database} (n : Int) (hb : Commits X a b) (hb' : Commits X b b')
      (hc : Commits X b' c) :
      Handled X T ⟨.snapshot n, a, c, .snapshot n (snapshotAnswer n b b')⟩
  | events {a b c : Database} (n : Int) (hb : Commits X a b) (hc : Commits X b c) :
      Handled X T ⟨.events n, a, c, .events n (eventRows n b)⟩
  | stats {a b b' c : Database} (hb : Commits X a b) (hb' : Commits X b b')
      (hc : Commits X b' c) :
      Handled X T ⟨.stats, a, c, .stats (trackedObjects b) (objectsWithSnapshot b')⟩
  | silent {a c : Database} (get : Get) (h : Commits X a c) : Handled X T ⟨get, a, c, .silent⟩

namespace Answer

/-- The rows of `objects` in an answer. -/
def rows : Answer → List ObjectRow
  | all rows => rows
  | search _ rows => rows.map (·.1)
  | popular _ rows => rows
  | topEvents _ rows => rows.map (·.1)
  | catalog _ rows => rows
  | object _ row => row.toList
  | _ => []

/-- The answer says that there is no such object: it lists all objects and not this one, or was
asked for this one. A search and a list of the most popular objects list all that there are to list
when they do not fill their limit. -/
def LacksObject (noradCatId : Int) : Answer → Prop
  | all rows => ∀ row ∈ rows, row.noradCatId ≠ noradCatId
  | search text rows => toString noradCatId = text ∧ rows.length < 20 ∧
      ∀ row ∈ rows, row.1.noradCatId ≠ noradCatId
  | popular limit rows => rows.length < limit ∧ ∀ row ∈ rows, row.noradCatId ≠ noradCatId
  | catalog _ rows => ∀ row ∈ rows, row.noradCatId ≠ noradCatId
  | object n row => n = noradCatId ∧ row = none
  | snapshot n answer => n = noradCatId ∧ answer = .noObject
  | _ => False

/-- The answer counts so many events of an object. -/
def CountsEvents (noradCatId : Int) (count : Nat) : Answer → Prop
  | topEvents _ rows => ∃ row ∈ rows, row.1.noradCatId = noradCatId ∧ row.2 = count
  | events n rows => n = noradCatId ∧ rows.length = count
  | _ => False

/-- There are at least so many objects, says the answer. -/
def atLeast : Answer → List Nat
  | all rows => [rows.length]
  | search _ rows => [totalMatches rows]
  | popular _ rows => [rows.length]
  | topEvents _ rows => [rows.length]
  | catalog count rows => [count, rows.length]
  | stats tracked _ => [tracked]
  | _ => []

/-- There are no more than so many objects, says the answer. -/
def atMost : Answer → List Nat
  | all rows => [rows.length]
  | popular limit rows => if rows.length < limit then [rows.length] else []
  | catalog count rows => [count, rows.length]
  | stats tracked _ => [tracked]
  | _ => []

/-- What the answer shows. -/
def Shows (answer : Answer) : Fact → Prop
  | .listed n => (∃ row ∈ answer.rows, row.noradCatId = n) ∨
      (∃ found, answer = .snapshot n found ∧ found ≠ .noObject) ∨
      ∃ e rows, answer = .events n (e :: rows)
  | .columns n c => ∃ row ∈ answer.rows, row.noradCatId = n ∧ row.fixed = c
  | .hits n k => ∃ row ∈ answer.rows, row.noradCatId = n ∧ k ≤ row.hitCount
  | .snapshot n t => ∃ row, answer = .snapshot n (.found row) ∧ t ≤ row.epoch
  | .event n e => ∃ rows, answer = .events n rows ∧ e ∈ rows
  | .eventCount n k => ∃ m, answer.CountsEvents n m ∧ k ≤ m
  | .tracked k => ∃ m ∈ answer.atLeast, k ≤ m
  | .covered k => ∃ tracked covered, answer = .stats tracked covered ∧ k ≤ covered

/-- What the answer denies. -/
def Denies (answer : Answer) : Fact → Prop
  | .listed n => answer.LacksObject n
  | .columns n c => answer.LacksObject n ∨ ∃ row ∈ answer.rows, row.noradCatId = n ∧ row.fixed ≠ c
  | .hits n k => answer.LacksObject n ∨
      ∃ row ∈ answer.rows, row.noradCatId = n ∧ row.hitCount < k
  | .snapshot n t => answer.LacksObject n ∨ answer = .snapshot n .noSnapshot ∨
      ∃ row, answer = .snapshot n (.found row) ∧ row.epoch < t
  | .event n e => answer.LacksObject n ∨ ∃ rows, answer = .events n rows ∧ e ∉ rows
  | .eventCount n k => (answer.LacksObject n ∧ 0 < k) ∨ ∃ m, answer.CountsEvents n m ∧ m < k
  | .tracked k => ∃ m ∈ answer.atMost, m < k
  | .covered k => ∃ tracked covered, answer = .stats tracked covered ∧ covered < k

end Answer

/-! ## Where an answer comes from -/

namespace Request.Handled

section
variable {X : Externals} {T : TextSearch} {q : Request} {n : Int}

/-- The answer about a snapshot is what its two statements found. -/
theorem of_snapshot (h : q.Handled X T) {found : SnapshotAnswer}
    (heq : q.answer = .snapshot n found) : ∃ a b, Commits X q.first a ∧ Commits X a b ∧
      Commits X b q.last ∧ found = snapshotAnswer n a b := by
  cases h with
  | snapshot n' hb hb' hc =>
    obtain ⟨rfl, hfound⟩ := Answer.snapshot.inj heq
    exact ⟨_, _, hb, hb', hc, hfound.symm⟩
  | _ => cases heq

/-- The events of an answer are those that its select found. -/
theorem of_events (h : q.Handled X T) {rows : List EventRow} (heq : q.answer = .events n rows) :
    ∃ b, Commits X q.first b ∧ Commits X b q.last ∧ rows = eventRows n b := by
  cases h with
  | events n' hb hc =>
    obtain ⟨rfl, hrows⟩ := Answer.events.inj heq
    exact ⟨_, hb, hc, hrows.symm⟩
  | _ => cases heq

/-- The two counts of an answer are those of its two statements. -/
theorem of_stats (h : q.Handled X T) {tracked covered : Nat}
    (heq : q.answer = .stats tracked covered) : ∃ a b, Commits X q.first a ∧ Commits X a b ∧
      Commits X b q.last ∧ tracked = trackedObjects a ∧ covered = objectsWithSnapshot b := by
  cases h with
  | stats hb hb' hc =>
    obtain ⟨htracked, hcovered⟩ := Answer.stats.inj heq
    exact ⟨_, _, hb, hb', hc, htracked.symm, hcovered.symm⟩
  | _ => cases heq

/-- The rows of an answer are stored at some moment of the request. -/
theorem rows_stored (h : q.Handled X T) : ∃ b, Commits X q.first b ∧ Commits X b q.last ∧
    ∀ row ∈ q.answer.rows, b.objects.find? row.noradCatId = some row := by
  have hstored : ∀ {b : Database} {row : ObjectRow}, row ∈ b.objects.rows →
      b.objects.find? row.noradCatId = some row := fun hrow => Table.find?_eq_some.2 ⟨hrow, rfl⟩
  cases h with
  | @objects a b c hb hc =>
    exact ⟨b, hb, hc, fun row hrow => hstored ((List.mem_insertionSort _).1 hrow)⟩
  | @search a b c text hb hc =>
    refine ⟨b, hb, hc, fun row hrow => ?_⟩
    obtain ⟨r, hr, rfl⟩ := List.mem_map.1 hrow
    exact hstored (mem_of_mem_searchRows hr)
  | @popular a b c limit hb hc =>
    exact ⟨b, hb, hc, fun row hrow => hstored (mem_of_mem_firstBy _ hrow)⟩
  | @topEvents a b c limit hb hc =>
    refine ⟨b, hb, hc, fun row hrow => ?_⟩
    obtain ⟨r, hr, rfl⟩ := List.mem_map.1 hrow
    obtain ⟨row, hranked, rfl⟩ := List.mem_map.1 hr
    exact hstored (List.mem_filter.1 (mem_of_mem_firstBy _ hranked)).1
  | @catalog a b b' c hb hb' hc =>
    exact ⟨b', hb.trans hb', hc, fun row hrow => hstored ((List.mem_insertionSort _).1 hrow)⟩
  | @object a b c n hb hc =>
    refine ⟨Sql.countHit n b, hb.tail (.hit n b), hc, fun row hrow => ?_⟩
    have hfind : returnedRow n b = some row := Option.mem_toList.1 hrow
    rwa [show row.noradCatId = n from (Table.find?_eq_some.1 hfind).2]
  | @snapshot a b b' c n hb hb' hc => exact ⟨b, hb, hb'.trans hc, List.forall_mem_nil _⟩
  | @events a b c n hb hc => exact ⟨b, hb, hc, List.forall_mem_nil _⟩
  | @stats a b b' c hb hb' hc => exact ⟨b, hb, hb'.trans hc, List.forall_mem_nil _⟩
  | @silent a c get h => exact ⟨a, .refl, h, List.forall_mem_nil _⟩

/-- What an answer counts of an object's events is right at some moment of the request. -/
theorem countsEvents (h : q.Handled X T) {m : Nat} (hm : q.answer.CountsEvents n m) :
    ∃ b, Commits X q.first b ∧ Commits X b q.last ∧ m = (eventRows n b).length := by
  cases h with
  | @topEvents a b c limit hb hc =>
    obtain ⟨r, hr, rfl, rfl⟩ := hm
    obtain ⟨row, -, rfl⟩ := List.mem_map.1 hr
    exact ⟨b, hb, hc, (length_eventRows row b).symm⟩
  | @events a b c n' hb hc =>
    obtain ⟨rfl, rfl⟩ := hm
    exact ⟨b, hb, hc, rfl⟩
  | _ => exact hm.elim

/-- What was a number of objects at some moment is no more than there are later. -/
theorem forall_le_tracked {a b : Database} (h : Commits X a b) {m : Nat}
    (hm : m ≤ trackedObjects a) : ∀ k ∈ [m], k ≤ trackedObjects b :=
  List.forall_mem_singleton.2 (hm.trans (trackedObjects_mono (Commits.grows h)))

/-- There are as many objects as an answer shows, when the request is over. -/
theorem atLeast_le (h : q.Handled X T) : ∀ m ∈ q.answer.atLeast, m ≤ trackedObjects q.last := by
  cases h with
  | @objects a b c hb hc => exact forall_le_tracked hc (List.length_insertionSort _ _).le
  | @search a b c text hb hc =>
    refine forall_le_tracked hc ?_
    rw [totalMatches_searchRows]
    exact List.length_filter_le _ _
  | @popular a b c limit hb hc =>
    refine forall_le_tracked hc ?_
    rw [firstBy_length]
    exact Nat.min_le_right _ _
  | @topEvents a b c limit hb hc =>
    refine forall_le_tracked hc ?_
    rw [List.length_map, topEventsRows, firstBy_length]
    exact (Nat.min_le_right _ _).trans (List.length_filter_le _ _)
  | @catalog a b b' c hb hb' hc =>
    exact List.forall_mem_cons.2 ⟨trackedObjects_mono (Commits.grows (hb'.trans hc)),
      forall_le_tracked hc (List.length_insertionSort _ _).le⟩
  | @stats a b b' c hb hb' hc => exact forall_le_tracked (hb'.trans hc) (le_refl _)
  | _ => exact List.forall_mem_nil _

/-- There were no more objects than an answer says, when the request came in. -/
theorem le_atMost (h : q.Handled X T) : ∀ m ∈ q.answer.atMost, trackedObjects q.first ≤ m := by
  cases h with
  | @objects a b c hb hc =>
    refine List.forall_mem_singleton.2 ?_
    rw [List.length_insertionSort]
    exact trackedObjects_mono (Commits.grows hb)
  | @popular a b c limit hb hc =>
    have hlen := firstBy_length mostHitsFirst limit b.objects.rows
    have hgrows : trackedObjects a ≤ b.objects.rows.length :=
      trackedObjects_mono (Commits.grows hb)
    intro m hm
    dsimp only [Answer.atMost] at hm
    split at hm
    · rw [List.mem_singleton.1 hm]
      show trackedObjects a ≤ _
      omega
    · cases hm
  | @catalog a b b' c hb hb' hc =>
    refine List.forall_mem_cons.2 ⟨trackedObjects_mono (Commits.grows hb),
      List.forall_mem_singleton.2 ?_⟩
    rw [List.length_insertionSort]
    exact trackedObjects_mono (Commits.grows (hb.trans hb'))
  | @stats a b b' c hb hb' hc =>
    exact List.forall_mem_singleton.2 (trackedObjects_mono (Commits.grows hb))
  | _ => exact List.forall_mem_nil _

end

end Request.Handled

/-! ## What is shown is true -/

section
variable {X : Externals} {T : TextSearch} {q : Request} {n : Int} {db a b : Database}

/-- A snapshot that is found is the last one of its object. -/
theorem lastSnapshotRow_of_found {row : SnapshotRow} (h : snapshotAnswer n a b = .found row) :
    Sql.lastSnapshotRow a.snapshots n = some row := by
  cases hlast : Sql.lastSnapshotRow a.snapshots n with
  | some row' =>
    rw [snapshotAnswer_found hlast] at h
    cases h
    rfl
  | none =>
    unfold snapshotAnswer at h
    rw [hlast] at h
    dsimp only at h
    split at h <;> cases h

/-- An answer about snapshots that does not lack the object was given when it was there. -/
theorem mem_keys_of_snapshotAnswer (h : Commits X a b) (hfound : snapshotAnswer n a b ≠ .noObject) :
    n ∈ b.objects.keys := by
  by_contra hn
  have ha : n ∉ a.objects.keys := fun ha => hn ((Commits.grows h).objects.mem_keys ha)
  exact hfound (snapshotAnswer_noObject (lastSnapshotRow_of_not_mem ha) hn)

/-- What an answer shows is true when its request is over. -/
theorem Request.Handled.holds_of_shows (h : q.Handled X T) {f : Fact} (hf : q.answer.Shows f) :
    f.Holds q.last := by
  obtain ⟨b, -, hlast, hrows⟩ := h.rows_stored
  have hgrows : b.Grows q.last := Commits.grows hlast
  cases f with
  | listed n =>
    rcases hf with ⟨row, hrow, rfl⟩ | ⟨found, heq, hfound⟩ | ⟨e, rows, heq⟩
    · exact hgrows.objects.mem_keys
        (Table.mem_keys.2 ⟨row, Table.find?_eq_some.1 (hrows row hrow)⟩)
    · obtain ⟨a, b, -, hab, hb, rfl⟩ := h.of_snapshot heq
      exact (Commits.grows hb).objects.mem_keys (mem_keys_of_snapshotAnswer hab hfound)
    · obtain ⟨b, -, hb, hevents⟩ := h.of_events heq
      obtain ⟨he, rfl⟩ := mem_eventRows.1 (hevents ▸ List.mem_cons_self)
      exact (Commits.grows hb).objects.mem_keys (b.event_objects e he)
  | columns n c =>
    obtain ⟨row, hrow, rfl, hc⟩ := hf
    exact Fact.Holds.mono (f := .columns _ c) ⟨row, hrows row hrow, hc⟩ hgrows
  | hits n k =>
    obtain ⟨row, hrow, rfl, hk⟩ := hf
    exact Fact.Holds.mono (f := .hits _ k) ⟨row, hrows row hrow, hk⟩ hgrows
  | snapshot n t =>
    obtain ⟨row, heq, ht⟩ := hf
    obtain ⟨a, b, -, hab, hb, hfound⟩ := h.of_snapshot heq
    obtain ⟨hmem, hn⟩ := mem_of_lastSnapshotRow (lastSnapshotRow_of_found hfound.symm)
    exact Fact.Holds.mono (f := .snapshot n t) ⟨row, hmem, hn, ht⟩ (Commits.grows (hab.trans hb))
  | event n e =>
    obtain ⟨rows, heq, he⟩ := hf
    obtain ⟨b, -, hb, rfl⟩ := h.of_events heq
    exact Fact.Holds.mono (f := .event n e) (mem_eventRows.1 he) (Commits.grows hb)
  | eventCount n k =>
    obtain ⟨m, hm, hk⟩ := hf
    obtain ⟨b, -, hb, rfl⟩ := h.countsEvents hm
    exact Fact.Holds.mono (f := .eventCount n k) hk (Commits.grows hb)
  | tracked k =>
    obtain ⟨m, hm, hk⟩ := hf
    exact hk.trans (h.atLeast_le m hm)
  | covered k =>
    obtain ⟨tracked, covered, heq, hk⟩ := hf
    obtain ⟨a, b, -, -, hb, -, rfl⟩ := h.of_stats heq
    exact Fact.Holds.mono (f := .covered k) hk (Commits.grows hb)

/-! ## What is denied is false -/

/-- A list of all objects has every object that was there before. -/
theorem exists_row_of_mem (h : Commits X a b) (hn : n ∈ a.objects.keys) :
    ∃ row ∈ b.objects.rows, row.noradCatId = n :=
  Table.mem_keys.1 ((Commits.grows h).objects.mem_keys hn)

/-- An object that an answer lacks was not there when the request came in. -/
theorem Request.Handled.not_mem_keys (h : q.Handled X T) (hn : q.answer.LacksObject n) :
    n ∉ q.first.objects.keys := by
  intro hmem
  cases h with
  | @objects a b c hb hc =>
    obtain ⟨row, hrow, hkey⟩ := exists_row_of_mem hb hmem
    exact hn row ((List.mem_insertionSort _).2 hrow) hkey
  | @search a b c text hb hc =>
    obtain ⟨rfl, hshort, hlacks⟩ := hn
    obtain ⟨row, hrow, rfl⟩ := exists_row_of_mem hb hmem
    exact hlacks _ (mem_searchRows_of_short hshort hrow rfl) rfl
  | @popular a b c limit hb hc =>
    obtain ⟨hshort, hlacks⟩ := hn
    obtain ⟨row, hrow, hkey⟩ := exists_row_of_mem hb hmem
    exact hlacks row (firstBy_short _ hshort hrow) hkey
  | @catalog a b b' c hb hb' hc =>
    obtain ⟨row, hrow, hkey⟩ := exists_row_of_mem (hb.trans hb') hmem
    exact hn row ((List.mem_insertionSort _).2 hrow) hkey
  | @object a b c n' hb hc =>
    obtain ⟨rfl, hnone⟩ := hn
    have hsome := returnedRow_isSome.2 ((Commits.grows hb).objects.mem_keys hmem)
    rw [hnone] at hsome
    cases hsome
  | @snapshot a b b' c n' hb hb' hc =>
    obtain ⟨rfl, hnone⟩ := hn
    have hlater : n' ∈ b'.objects.keys := (Commits.grows (hb.trans hb')).objects.mem_keys hmem
    cases hlast : Sql.lastSnapshotRow b.snapshots n' with
    | some row => cases hnone.symm.trans (snapshotAnswer_found hlast)
    | none => cases hnone.symm.trans (snapshotAnswer_noSnapshot hlast hlater)
  | _ => exact hn.elim

/-- Of an object that is not there nothing is known. -/
structure Unknown (db : Database) (n : Int) : Prop where
  columns : ∀ c, ¬ (Fact.columns n c).Holds db
  hits : ∀ k, ¬ (Fact.hits n k).Holds db
  snapshot : ∀ t, ¬ (Fact.snapshot n t).Holds db
  event : ∀ e, ¬ (Fact.event n e).Holds db
  eventCount : ∀ k, 0 < k → ¬ (Fact.eventCount n k).Holds db

/-- Every fact but an empty list of events needs a row of the object, and rows of other tables name
only objects that are there. -/
theorem unknown_of_not_mem (hn : n ∉ db.objects.keys) : Unknown db n where
  columns _ h := by
    obtain ⟨row, hrow, -⟩ := h
    exact hn (Table.mem_keys.2 ⟨row, Table.find?_eq_some.1 hrow⟩)
  hits _ h := by
    obtain ⟨row, hrow, -⟩ := h
    exact hn (Table.mem_keys.2 ⟨row, Table.find?_eq_some.1 hrow⟩)
  snapshot _ h := by
    obtain ⟨row, hrow, rfl, -⟩ := h
    exact hn (db.snapshot_objects row hrow)
  event e h := by
    obtain ⟨he, rfl⟩ := h
    exact hn (db.event_objects e he)
  eventCount k hk h := by
    obtain ⟨e, hlisted⟩ := List.exists_mem_of_length_pos (hk.trans_le h)
    obtain ⟨he, rfl⟩ := mem_eventRows.1 hlisted
    exact hn (db.event_objects e he)

/-- What an answer denies was not true when its request came in. -/
theorem Request.Handled.not_holds_of_denies (h : q.Handled X T) {f : Fact}
    (hf : q.answer.Denies f) : ¬ f.Holds q.first := by
  obtain ⟨b, hfirst, -, hrows⟩ := h.rows_stored
  have hgrows : q.first.Grows b := Commits.grows hfirst
  cases f with
  | listed n => exact h.not_mem_keys hf
  | columns n c =>
    rcases hf with hlacks | ⟨row, hrow, rfl, hc⟩
    · exact (unknown_of_not_mem (h.not_mem_keys hlacks)).columns c
    · intro hholds
      obtain ⟨row', hrow', rfl⟩ := Fact.Holds.mono hholds hgrows
      exact hc (congrArg _ (Option.some.inj ((hrows row hrow).symm.trans hrow')))
  | hits n k =>
    rcases hf with hlacks | ⟨row, hrow, rfl, hk⟩
    · exact (unknown_of_not_mem (h.not_mem_keys hlacks)).hits k
    · intro hholds
      obtain ⟨row', hrow', hk'⟩ := Fact.Holds.mono hholds hgrows
      cases (hrows row hrow).symm.trans hrow'
      exact absurd hk' (not_le.2 hk)
  | snapshot n t =>
    rcases hf with hlacks | heq | ⟨row, heq, ht⟩
    · exact (unknown_of_not_mem (h.not_mem_keys hlacks)).snapshot t
    · obtain ⟨a, b, ha, -, -, hnone⟩ := h.of_snapshot heq
      intro hholds
      obtain ⟨row, hrow, rfl, -⟩ := Fact.Holds.mono hholds (Commits.grows ha)
      obtain ⟨last, hlast, -⟩ := exists_lastSnapshotRow hrow
      cases hnone.trans (snapshotAnswer_found hlast)
    · obtain ⟨a, b, ha, -, -, hfound⟩ := h.of_snapshot heq
      intro hholds
      obtain ⟨row', hrow', hn, ht'⟩ := Fact.Holds.mono hholds (Commits.grows ha)
      have hlast := lastSnapshotRow_of_found hfound.symm
      exact absurd (ht'.trans (lastSnapshotRow_le hlast row' hrow' hn)) (not_le.2 ht)
  | event n e =>
    rcases hf with hlacks | ⟨rows, heq, he⟩
    · exact (unknown_of_not_mem (h.not_mem_keys hlacks)).event e
    · obtain ⟨b, hb, -, rfl⟩ := h.of_events heq
      intro hholds
      exact he (mem_eventRows.2 (Fact.Holds.mono hholds (Commits.grows hb)))
  | eventCount n k =>
    rcases hf with ⟨hlacks, hk⟩ | ⟨m, hm, hk⟩
    · exact (unknown_of_not_mem (h.not_mem_keys hlacks)).eventCount k hk
    · obtain ⟨b, hb, -, rfl⟩ := h.countsEvents hm
      intro hholds
      exact absurd (Fact.Holds.mono hholds (Commits.grows hb)) (not_le.2 hk)
  | tracked k =>
    obtain ⟨m, hm, hk⟩ := hf
    exact fun hholds => absurd (hholds.trans (h.le_atMost m hm)) (not_le.2 hk)
  | covered k =>
    obtain ⟨tracked, covered, heq, hk⟩ := hf
    obtain ⟨a, b, ha, hab, -, -, rfl⟩ := h.of_stats heq
    intro hholds
    exact absurd (Fact.Holds.mono hholds (Commits.grows (ha.trans hab))) (not_le.2 hk)

end

/-! ## The requests of a client -/

namespace SessionsFixture

open SnapshotsFixture

/-- A client that asks for the counts, searches for an object, asks for its snapshot that is
committed meanwhile, and then for the object. -/
def requests : List Request :=
  [⟨.stats, before, before, .stats (trackedObjects before) (objectsWithSnapshot before)⟩,
    ⟨.search "5", before, before, .search "5" (searchRows asciiSearch "5" before)⟩,
    ⟨.snapshot 5, before, after, .snapshot 5 (snapshotAnswer 5 after after)⟩,
    ⟨.object 5, after, Sql.countHit 5 after, .object 5 (returnedRow 5 after)⟩]

/-- The four requests are a session: what is committed within and between them is one snapshot and
one hit. -/
theorem requests_session : IsSession (Commit externals) Request.first Request.last requests where
  lasts := List.forall_mem_cons.2 ⟨.refl, List.forall_mem_cons.2 ⟨.refl, List.forall_mem_cons.2
    ⟨.single commit, List.forall_mem_singleton.2 (.single (.hit 5 after))⟩⟩⟩
  follows := .cons_cons .refl (.cons_cons .refl (.cons_cons .refl (.singleton _)))

/-- Each of them is answered from tables that are there at some moment of it. -/
theorem requests_handled : ∀ q ∈ requests, q.Handled externals asciiSearch :=
  List.forall_mem_cons.2 ⟨.stats .refl .refl .refl, List.forall_mem_cons.2
    ⟨.search "5" .refl .refl, List.forall_mem_cons.2 ⟨.snapshot 5 (.single commit) .refl .refl,
      List.forall_mem_singleton.2 (.object 5 .refl .refl)⟩⟩⟩

end SessionsFixture

end VitaleBackend
