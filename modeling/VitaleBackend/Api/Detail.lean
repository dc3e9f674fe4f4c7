import VitaleBackend.Api.Objects
import VitaleBackend.Api.Snapshots

/-!
# `/objects` and `/objects/<int>`

The list of all objects, and one object, whose request counts itself in the row that it returns. A
client that asks for an object again reads a larger count each time, and once the object was there
it is there for good, with its fixed columns (`details_inOrder`).
-/

namespace VitaleBackend

open Relational Moments

/-! ## The handlers -/

/-- The select of `/objects`, as the list of the answer. -/
def objectsList (X : Externals) (db : Database) : List Json :=
  (db.objects.rows.insertionSort Sql.byNoradCatId).map (objectRowToJson X)

/-- `/objects`. -/
def objects (X : Externals) (conn : Except Exn Unit) (db : Database) : JsonResponse :=
  respond conn ⟨200, .obj [("objects", .arr (objectsList X db))]⟩

/-- `UPDATE objects SET hit_count = hit_count + 1 ... RETURNING`: the row that comes back. -/
def returnedRow (noradCatId : Int) (db : Database) : Option ObjectRow :=
  (Sql.countHit noradCatId db).objects.find? noradCatId

/-- The response to the row that came back. -/
def detailResponse (X : Externals) : Option ObjectRow → JsonResponse
  | none => errorResponse 404 "object not found"
  | some row => ⟨200, objectRowToJson X row⟩

/-- `/objects/<int>`: the response, and the tables after the transaction, which is committed also
when the object is not there. -/
def objectDetail (X : Externals) (noradCatId : Int) (conn : Except Exn Unit) (db : Database) :
    JsonResponse × Database :=
  match conn with
  | .ok () => (detailResponse X (returnedRow noradCatId db), Sql.countHit noradCatId db)
  | .error e => (errorResponse 500 e.what, db)

section
variable {n : Int} {db db' : Database} {row row' : ObjectRow}

/-- The row that comes back is the stored one with one more hit. -/
theorem returnedRow_eq (n : Int) (db : Database) : returnedRow n db =
    (db.objects.find? n).map fun row => { row with hitCount := row.hitCount + 1 } := by
  rw [returnedRow, find?_countHit_row]
  refine Option.map_congr fun row hrow => ?_
  rw [ObjectRow.countHit, if_pos (Table.key_of_find? hrow)]

/-- A row comes back exactly when one is stored, and it differs from that one in its hits only. -/
theorem returnedRow_eq_some : returnedRow n db = some row' ↔
    ∃ row, db.objects.find? n = some row ∧ row' = { row with hitCount := row.hitCount + 1 } := by
  rw [returnedRow_eq, Option.map_eq_some_iff]
  exact exists_congr fun row => and_congr_right fun _ => eq_comm

/-- A row comes back exactly when the object is in the catalogue, which the handler answers with
200. -/
theorem returnedRow_isSome : (returnedRow n db).isSome = true ↔ n ∈ db.objects.keys := by
  rw [returnedRow_eq, Option.isSome_map]
  exact find?_isSome_iff

/-- A row that comes back later has counted this request as well. -/
theorem returnedRow_later (h : returnedRow n db = some row)
    (hgrows : (Sql.countHit n db).Grows db') : ∃ row', returnedRow n db' = some row' ∧
      row'.fixed = row.fixed ∧ row.hitCount < row'.hitCount := by
  obtain ⟨later, hlater, hlives⟩ := hgrows.objects n row h
  refine ⟨_, returnedRow_eq_some.2 ⟨later, hlater, rfl⟩, hlives.fixed, ?_⟩
  exact Int.lt_add_one_iff.2 hlives.hitCount

end

/-! ## The requests of a client -/

/-- What a client can rely on: an object that was there is there for good, with its fixed columns,
and is returned with more hits each time. -/
structure DetailsInOrder (X : Externals) (noradCatId : Int) (dbs : List Database) : Prop where
  response : ∀ db ∈ dbs, (objectDetail X noradCatId (.ok ()) db).1.code =
    if noradCatId ∈ db.objects.keys then 200 else 404
  kept : dbs.Pairwise fun db db' => ∀ row, returnedRow noradCatId db = some row →
    ∃ row', returnedRow noradCatId db' = some row' ∧ row'.fixed = row.fixed ∧
      row.hitCount < row'.hitCount

/-- However the commits of the services come between the requests of a client for an object, the
client reads it in order. Each request is itself one of the commits. -/
theorem details_inOrder {X : Externals} {n : Int} {dbs : List Database}
    (h : IsSession (Commit X) id (Sql.countHit n) dbs) : DetailsInOrder X n dbs where
  response db _ := by
    cases hrow : returnedRow n db with
    | none =>
      have hn : n ∉ db.objects.keys := fun hn => by simpa [hrow] using returnedRow_isSome.2 hn
      rw [if_neg hn, objectDetail, hrow]
      rfl
    | some row =>
      have hn : n ∈ db.objects.keys := returnedRow_isSome.1 (by rw [hrow]; rfl)
      rw [if_pos hn, objectDetail, hrow]
      rfl
  kept := h.pairwise.imp fun hcommits _ hrow => returnedRow_later hrow (Commits.grows hcommits)

open SnapshotsFixture in
/-- A client that asks for object 5 twice, with no other commit in between. -/
theorem details_inOrder_twice : DetailsInOrder externals 5 [before, Sql.countHit 5 before] :=
  details_inOrder ⟨fun db _ => .single (.hit 5 db), .cons_cons .refl (.singleton _)⟩

end VitaleBackend
