import VitaleBackend.Api.Snapshots
import VitaleBackend.Api.TopN

/-!
# `/objects/<int>/events` and `/objects/<int>/audt`

Two names of one handler, which lists the events of an object from the newest one on. An event that
was listed once is listed ever after, once and as it was (`events_inOrder`), and the length of the
list is what `/objects/top-events` ranks its object by (`topEvents_ranked`).
-/

namespace VitaleBackend

open Relational Moments

/-! ## The handler -/

/-- `ORDER BY event_time DESC`. -/
def newestFirst (a b : EventRow) : Prop := b.eventTime ≤ a.eventTime

/-- The times of the rows are compared as integers. -/
instance : DecidableRel newestFirst := fun a b =>
  inferInstanceAs (Decidable (b.eventTime ≤ a.eventTime))

/-- Any two events can be listed in one of the two orders. -/
instance : Std.Total newestFirst := ⟨fun a b => Int.le_total b.eventTime a.eventTime⟩

/-- The order of the list is that of the times, backwards. -/
instance : IsTrans EventRow newestFirst := ⟨fun _ _ _ h h' => Int.le_trans h' h⟩

/-- The select of `object_audt_events_response`. -/
def eventRows (noradCatId : Int) (db : Database) : List EventRow :=
  (db.audtEvents.filter (·.noradCatId = noradCatId)).insertionSort newestFirst

/-- `event_row_to_json`, with the text that Postgres makes of a `JSONB`. -/
def eventRowToJson (X : Externals) (jsonOut : Json → String) (row : EventRow) : Json :=
  .obj
    [("id", .num (.fin row.id)),
      ("event_type_code", .str row.eventTypeCode),
      ("event_time", .str (X.timestampOut row.eventTime)),
      ("detail_json", .str (jsonOut row.detailJson))]

/-- `object_audt_events_response`. -/
def objectAudtEventsResponse (X : Externals) (jsonOut : Json → String) (noradCatId : Int)
    (conn : Except Exn Unit) (db : Database) : JsonResponse :=
  respond conn ⟨200, .obj
    [("norad_cat_id", .num (.fin noradCatId)),
      ("events", .arr ((eventRows noradCatId db).map (eventRowToJson X jsonOut)))]⟩

section
variable {n : Int} {db db' : Database}

/-- The list is a reordering of the rows with the number of the object. -/
theorem eventRows_perm (n : Int) (db : Database) :
    (eventRows n db).Perm (db.audtEvents.filter (·.noradCatId = n)) :=
  List.perm_insertionSort _ _

/-- An event is listed exactly when it is stored and names the object. -/
theorem mem_eventRows {e : EventRow} :
    e ∈ eventRows n db ↔ e ∈ db.audtEvents ∧ e.noradCatId = n := by
  rw [(eventRows_perm n db).mem_iff, List.mem_filter, decide_eq_true_eq]

/-- The list is in the order that the select asks for. -/
theorem eventRows_sorted (n : Int) (db : Database) : (eventRows n db).Pairwise newestFirst :=
  List.pairwise_insertionSort _ _

/-- The events of an object are as many as `/objects/top-events` counts. -/
theorem length_eventRows (row : ObjectRow) (db : Database) :
    (eventRows row.noradCatId db).length = eventCount db row :=
  (eventRows_perm _ _).length_eq

/-- No event is listed twice where the ids of the stored ones are distinct. -/
theorem eventRows_nodup (h : db.DistinctEvents) (n : Int) :
    ((eventRows n db).map (·.id)).Nodup := by
  refine ((eventRows_perm n db).map _).nodup_iff.2 ?_
  exact h.sublist (List.filter_sublist.map _)

/-- What was listed stays listed. -/
theorem eventRows_subperm (h : db.Grows db') (n : Int) :
    (eventRows n db).Subperm (eventRows n db') := by
  have hsub : (db.audtEvents.filter (·.noradCatId = n)).Subperm
      (db'.audtEvents.filter (·.noradCatId = n)) := (h.audtEvents.sublist.filter _).subperm
  exact (eventRows_perm n db).subperm_right.2 ((eventRows_perm n db').subperm_left.2 hsub)

end

/-! ## The requests of a client -/

/-- What a client can rely on: the response lists the events of the object, each once, the newest
first, and every one of them again whenever it asks later. -/
structure EventsInOrder (noradCatId : Int) (dbs : List Database) : Prop where
  response : ∀ db ∈ dbs, ∀ X jsonOut, objectAudtEventsResponse X jsonOut noradCatId (.ok ()) db =
    ⟨200, .obj [("norad_cat_id", .num (.fin noradCatId)),
      ("events", .arr ((eventRows noradCatId db).map (eventRowToJson X jsonOut)))]⟩
  listed : ∀ db ∈ dbs, ∀ e, e ∈ eventRows noradCatId db ↔
    e ∈ db.audtEvents ∧ e.noradCatId = noradCatId
  sorted : ∀ db ∈ dbs, (eventRows noradCatId db).Pairwise newestFirst
  distinct : ∀ db ∈ dbs, ((eventRows noradCatId db).map (·.id)).Nodup
  kept : dbs.Pairwise fun db db' => (eventRows noradCatId db).Subperm (eventRows noradCatId db')

/-- However the commits of the services come between the requests of a client, the events that it
reads are in order. -/
theorem events_inOrder {X : Externals} {dbs : List Database}
    (h : IsSession (Commit X) id id dbs) (hreach : ∀ db ∈ dbs.head?, Reachable X db) (n : Int) :
    EventsInOrder n dbs where
  response _ _ _ _ := rfl
  listed _ _ _ := mem_eventRows
  sorted db _ := eventRows_sorted n db
  distinct db hdb := by
    cases dbs with
    | nil => cases hdb
    | cons first dbs =>
      have hfirst : Reachable X first := hreach first rfl
      have hreached : Commits X first db := by
        rcases List.mem_cons.1 hdb with rfl | hdb
        · exact .refl
        · exact List.rel_of_pairwise_cons h.pairwise hdb
      exact eventRows_nodup (Reachable.distinctEvents (.trans hfirst hreached)) n
  kept := h.pairwise.imp fun hcommits => eventRows_subperm (Commits.grows hcommits) n

namespace EventsFixture

open HitsFixture (externals)

/-- The record of an object under some name. -/
def named (objectName : String) : ObjectRecord := { HitsFixture.record with objectName }

/-- The tables after a batch that names the object. -/
def rename (objectName : String) (db : Database) : Database :=
  ((Sql.upsertObjectsFromSatcat externals makeDefaultObjectRuleRegistry (calmEnv 0 "" 0)
    [named objectName] db).toOption.map (·.2)).getD db

/-- A batch with one storable record goes through, whatever the tables are. -/
theorem rename_commit {objectName : String} (h : (named objectName).Storable externals)
    (db : Database) : Commit externals db (rename objectName db) := by
  obtain ⟨⟨events, db'⟩, hbatch⟩ := (@upsertObjectsFromSatcat_ok_iff externals (calmEnv 0 "" 0)
    [named objectName] db).2 (List.forall_mem_singleton.2 h)
  rw [rename, hbatch]
  exact .batch hbatch

/-- The object is first seen under its first name, on empty tables. -/
theorem first_commit : Commit externals .empty (rename "VANGUARD" .empty) :=
  rename_commit (ObjectRecord.storable_iff.2 (by decide +kernel)) _

/-- The second batch renames it, which `name_changed` records. -/
theorem second_commit : Commit externals (rename "VANGUARD" .empty)
    (rename "VANGUARD 1" (rename "VANGUARD" .empty)) :=
  rename_commit (ObjectRecord.storable_iff.2 (by decide +kernel)) _

/-- The catalogue before and after the object is renamed. -/
def tables : List Database :=
  [rename "VANGUARD" .empty, rename "VANGUARD 1" (rename "VANGUARD" .empty)]

example : tables.map (fun db => (eventRows 5 db).length) = [0, 1] := by
  decide +kernel

end EventsFixture

open EventsFixture in
/-- A client that reads the events of the object before and after it is renamed. -/
theorem events_inOrder_renamed : EventsInOrder 5 tables := by
  refine events_inOrder (X := HitsFixture.externals) ⟨fun _ _ => .refl, ?_⟩ (fun db hdb => ?_) 5
  · exact .cons_cons (.single second_commit) (.singleton _)
  · cases hdb
    exact Relation.ReflTransGen.single first_commit

/-! ## `/objects/top-events` -/

/-- The rows of `/objects/top-events`. -/
def topEventsRows (db : Database) (limit : Nat) : List ObjectRow :=
  firstBy (mostEventsFirst db) limit (db.objects.rows.filter fun row => 0 < eventCount db row)

/-- Any two objects can be ranked one before the other. -/
instance (db : Database) : Std.Total (mostEventsFirst db) :=
  ⟨fun a b => by unfold mostEventsFirst; omega⟩

/-- The ranking compares two numbers after another, and both comparisons are transitive. -/
instance (db : Database) : IsTrans ObjectRow (mostEventsFirst db) :=
  ⟨fun a b c => by unfold mostEventsFirst; omega⟩

/-- The ranking by events: each object with the length of its list of events, the longest list
first, and left out only for want of events or of room. -/
structure RankedByEvents (X : Externals) (db : Database) (limit : Nat) (shown : List ObjectRow) :
    Prop where
  answer : topEventsObjects X db limit = shown.map fun row => (objectRowToJson X row).insert
    "event_count" (.num (.fin (eventRows row.noradCatId db).length))
  stored : ∀ row ∈ shown, row ∈ db.objects.rows ∧ eventRows row.noradCatId db ≠ []
  sorted : shown.Pairwise fun a b =>
    (eventRows b.noradCatId db).length ≤ (eventRows a.noradCatId db).length
  complete : ∀ row ∈ db.objects.rows, row ∉ shown → eventRows row.noradCatId db = [] ∨
    shown.length = limit ∧ ∀ a ∈ shown,
      (eventRows row.noradCatId db).length ≤ (eventRows a.noradCatId db).length

/-- What is ranked no later has no shorter list of events. -/
theorem mostEventsFirst_le {db : Database} {a b : ObjectRow} (h : mostEventsFirst db a b) :
    (eventRows b.noradCatId db).length ≤ (eventRows a.noradCatId db).length := by
  rw [length_eventRows, length_eventRows]
  rcases h with h | ⟨h, -⟩
  · exact h.le
  · exact h.ge

/-- `/objects/top-events` ranks the objects by what `/objects/<int>/events` lists. -/
theorem topEvents_ranked (X : Externals) (db : Database) (limit : Nat) :
    RankedByEvents X db limit (topEventsRows db limit) where
  answer := List.map_congr_left fun row _ => by rw [length_eventRows]
  stored row hrow := by
    obtain ⟨hmem, hpos⟩ := List.mem_filter.1 (mem_of_mem_firstBy _ hrow)
    rw [decide_eq_true_eq, ← length_eventRows] at hpos
    exact ⟨hmem, List.ne_nil_of_length_pos hpos⟩
  sorted := (firstBy_pairwise _ _ _).imp mostEventsFirst_le
  complete row hrow hout := by
    rw [or_iff_not_imp_left]
    intro hne
    have hmem : row ∈ db.objects.rows.filter fun row => 0 < eventCount db row := by
      refine List.mem_filter.2 ⟨hrow, decide_eq_true ?_⟩
      rw [← length_eventRows]
      exact List.length_pos_of_ne_nil hne
    refine ⟨?_, fun a ha => mostEventsFirst_le (firstBy_le _ ha hmem hout)⟩
    by_contra hshort
    have hle : (topEventsRows db limit).length ≤ limit := by
      rw [topEventsRows, firstBy_length]
      exact Nat.min_le_left _ _
    exact hout (firstBy_short _ (Nat.lt_of_le_of_ne hle hshort) hmem)

end VitaleBackend
