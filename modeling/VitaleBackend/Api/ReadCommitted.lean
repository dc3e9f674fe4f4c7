import VitaleBackend.Api.Freshness

/-!
# A catalogue request amid commits

The handler reads its validators and its list by two statements of one transaction, and under `READ
COMMITTED` each statement sees what is committed when it starts. What the poller commits between the
two is in the list and not in the validators, so that an answer is consistent exactly when the
commits in between leave the number of objects and the second of the stamp alone
(`catalog_consistent_iff`). These are the commits without a batch that has a new object and without
a last stamp of another second (`CatalogRead.settled_iff`).
-/

namespace VitaleBackend

/-- A transaction that commits: a stamp of the satcat poller, the batch of one response, or a
hit. -/
inductive Committed where
  | mark (now : Timestamp)
  | batch (env : Nat → Call) (jsonBody : String)
  | hit (noradCatId : Int)

/-- The tables after a commit. -/
def Committed.apply (X : Externals) (db : Database) : Committed → Database
  | .mark now => Sql.markPollerRun "satcat" now db
  | .batch env jsonBody => receive X db (env, jsonBody)
  | .hit noradCatId => Sql.countHit noradCatId db

/-- The tables after some commits. -/
def commitAll (X : Externals) (db : Database) (commits : List Committed) : Database :=
  commits.foldl (Committed.apply X) db

/-- A request and the commits around its statements. -/
structure CatalogRead where
  request : CatalogRequest
  /-- the time of the transaction, for `now()` -/
  now : Timestamp
  /-- the tables when the transaction begins -/
  start : Database
  /-- what commits before the select of the validators -/
  before : List Committed
  /-- what commits from there to the select of the list -/
  between : List Committed

namespace CatalogRead

variable (X : Externals) (r : CatalogRead)

/-- The tables that the select of the validators sees. -/
def atMeta : Database := commitAll X r.start r.before

/-- The tables that the select of the list sees. -/
def atList : Database := commitAll X (r.atMeta X) r.between

/-- The handler. -/
def response : CatalogResponse :=
  catalogResponse r.request (catalogMeta r.now (r.atMeta X)) (catalogObjects X (r.atList X))

/-- A 200 answer counts its list, and its `ETag` is that of the tables from which the list was
read. -/
def Consistent : Prop :=
  ∀ headers generatedAt count objects, r.response X = .ok headers generatedAt count objects →
    count = objects.length ∧
      headers.etag = etagText (toChar (wholeSecond (genTs r.now (r.atList X))))
        (r.atList X).objects.rows.length

/-- The request is answered with 304. -/
def IsCurrent : Prop := notModified r.request (catalogMeta r.now (r.atMeta X)) = true

/-- The commits between the two statements leave alone what the validators say. -/
structure Settled : Prop where
  count : (r.atList X).objects.rows.length = (r.atMeta X).objects.rows.length
  second : wholeSecond (genTs r.now (r.atList X)) = wholeSecond (genTs r.now (r.atMeta X))

variable {X r}

/-- What is not answered with 304 is answered with the validators of the first select and the list
of the second. -/
theorem response_ok (h : ¬ r.IsCurrent X) : r.response X =
    .ok (catalogHeaders (catalogMeta r.now (r.atMeta X)))
      (catalogMeta r.now (r.atMeta X)).generatedAt (r.atMeta X).objects.rows.length
      (catalogObjects X (r.atList X)) := by
  unfold response catalogResponse
  exact if_neg h

/-- An answer is consistent exactly when it is a 304 or nothing that the validators say was changed
between the two statements. -/
theorem catalog_consistent_iff (X : Externals) (r : CatalogRead) :
    r.Consistent X ↔ r.IsCurrent X ∨ r.Settled X := by
  by_cases hcurrent : r.IsCurrent X
  · refine iff_of_true (fun headers generatedAt count objects h => ?_) (.inl hcurrent)
    unfold response catalogResponse at h
    have h304 := (if_pos hcurrent).symm.trans h
    cases h304
  rw [or_iff_right hcurrent]
  constructor
  · intro h
    obtain ⟨hcount, hetag⟩ := h _ _ _ _ (response_ok hcurrent)
    rw [length_catalogObjects] at hcount
    obtain ⟨hsecond, -⟩ := etag_inj.1 hetag
    exact ⟨hcount.symm, hsecond.symm⟩
  · rintro ⟨hcount, hsecond⟩ headers generatedAt count objects h
    rw [response_ok hcurrent] at h
    cases h
    refine ⟨?_, etag_inj.2 ⟨hsecond.symm, hcount.symm⟩⟩
    rw [length_catalogObjects, hcount]

end CatalogRead

/-! ## Commits that leave the validators alone -/

namespace Committed

/-- The time that a commit stamps. -/
def stamp? : Committed → Option Timestamp
  | mark now => some now
  | _ => none

/-- The commit adds no object: it has no batch, or one that is not stored or has no number outside
of the catalogue. -/
def AddsNone (X : Externals) (db : Database) : Committed → Prop
  | batch env jsonBody => (env 0).fault = .none → Accepted X jsonBody →
      ∀ v ∈ visited X jsonBody, ∀ k, intField v "NORAD_CAT_ID" = .ok k → k ∈ db.objects.keys
  | _ => True

end Committed

/-- No commit of the list adds an object, each taken where those before it have led. -/
def AddNone (X : Externals) : Database → List Committed → Prop
  | _, [] => True
  | db, c :: cs => c.AddsNone X db ∧ AddNone X (c.apply X db) cs

section
variable {X : Externals} {db : Database}

/-- A response leaves the number of objects alone when every number of it is there before. -/
theorem length_receive_iff (r : (Nat → Call) × String) :
    (receive X db r).objects.rows.length = db.objects.rows.length ↔
      ∀ k ∈ (receive X db r).objects.keys, k ∈ db.objects.keys := by
  have hsub : db.objects.keys ⊆ (receive X db r).objects.keys := fun k hk => mem_receive.2 (.inl hk)
  have hlength : ∀ d : Database, d.objects.rows.length = d.objects.keys.length :=
    fun d => (List.length_map _).symm
  rw [hlength, hlength]
  constructor
  · intro hlen k hk
    have hperm := (db.objects.nodup.subperm hsub).perm_of_length_le hlen.le
    exact hperm.mem_iff.2 hk
  · intro hkeys
    refine ((List.perm_ext_iff_of_nodup (receive X db r).objects.nodup
      db.objects.nodup).2 fun k => ?_).length_eq
    exact ⟨hkeys k, @hsub k⟩

/-- A commit leaves the number of objects alone when it adds none. -/
theorem Committed.length_apply_iff (c : Committed) :
    (c.apply X db).objects.rows.length = db.objects.rows.length ↔ c.AddsNone X db := by
  cases c with
  | mark now => exact iff_of_true rfl trivial
  | batch env jsonBody =>
    rw [Committed.apply, length_receive_iff]
    constructor
    · intro h hfault haccepted v hv k hk
      exact h k (mem_receive.2 (.inr ⟨hfault, haccepted, v, hv, hk⟩))
    · intro h k hk
      rcases mem_receive.1 hk with hk | ⟨hfault, haccepted, v, hv, hk⟩
      · exact hk
      · exact h hfault haccepted v hv k hk
  | hit n =>
    refine iff_of_true ?_ trivial
    rw [Committed.apply, Sql.countHit_rows, List.length_map]

/-- No commit takes an object away. -/
theorem Committed.length_le_apply (c : Committed) (db : Database) :
    db.objects.rows.length ≤ (c.apply X db).objects.rows.length := by
  cases c with
  | mark now => exact le_rfl
  | batch env jsonBody => exact length_le_receive X db (env, jsonBody)
  | hit n => exact ((Committed.length_apply_iff (.hit n)).2 trivial).ge

/-- The number of objects does not go down over any number of commits. -/
theorem length_le_commitAll (cs : List Committed) (db : Database) :
    db.objects.rows.length ≤ (commitAll X db cs).objects.rows.length := by
  induction cs generalizing db with
  | nil => exact le_rfl
  | cons c cs ih => exact (c.length_le_apply db).trans (ih (c.apply X db))

/-- Objects are not taken away, so that none of the commits may add one. -/
theorem length_commitAll_iff {cs : List Committed} :
    (commitAll X db cs).objects.rows.length = db.objects.rows.length ↔ AddNone X db cs := by
  induction cs generalizing db with
  | nil => exact iff_of_true rfl trivial
  | cons c cs ih =>
    have hfirst := c.length_le_apply (X := X) db
    have hrest := length_le_commitAll (X := X) cs (c.apply X db)
    have hcons : commitAll X db (c :: cs) = commitAll X (c.apply X db) cs := rfl
    rw [AddNone, ← c.length_apply_iff, ← ih, hcons]
    omega

/-- A commit moves the generation time to its stamp, if it has one. -/
theorem Committed.genTs_apply (c : Committed) (now : Timestamp) :
    genTs now (c.apply X db) = c.stamp?.getD (genTs now db) := by
  cases c with
  | mark stamp =>
    obtain ⟨row, hrow, hlast⟩ := Sql.find?_markPollerRun "satcat" stamp db
    exact (genTs_some hrow).trans hlast
  | batch env jsonBody => rw [Committed.apply, genTs, receive_pollerState]; rfl
  | hit n => rfl

/-- Of several stamps the last one counts. -/
theorem genTs_commitAll (cs : List Committed) (now : Timestamp) (db : Database) :
    genTs now (commitAll X db cs) =
      (cs.filterMap Committed.stamp?).getLast?.getD (genTs now db) := by
  induction cs generalizing db with
  | nil => rfl
  | cons c cs ih =>
    have hcons : commitAll X db (c :: cs) = commitAll X (c.apply X db) cs := rfl
    rw [hcons, ih, c.genTs_apply, List.filterMap_cons]
    cases c.stamp? with
    | none => rfl
    | some stamp => rw [List.getLast?_cons, Option.getD_some, Option.getD_some]

end

/-- What the validators say is left alone exactly when the commits between the two statements add no
object, and the last stamp among them, if there is one, is of the second that was there before. -/
theorem CatalogRead.settled_iff {X : Externals} {r : CatalogRead} :
    r.Settled X ↔ AddNone X (r.atMeta X) r.between ∧
      ∀ stamp ∈ (r.between.filterMap Committed.stamp?).getLast?,
        wholeSecond stamp = wholeSecond (genTs r.now (r.atMeta X)) := by
  rw [← length_commitAll_iff, ← CatalogRead.atList]
  have hgen : genTs r.now (r.atList X) =
      (r.between.filterMap Committed.stamp?).getLast?.getD (genTs r.now (r.atMeta X)) :=
    genTs_commitAll r.between r.now (r.atMeta X)
  constructor
  · intro h
    refine ⟨h.count, fun stamp hstamp => ?_⟩
    rw [← h.second, hgen, Option.mem_def.1 hstamp, Option.getD_some]
  · rintro ⟨hcount, hstamp⟩
    refine ⟨hcount, ?_⟩
    rw [hgen]
    cases hlast : (r.between.filterMap Committed.stamp?).getLast? with
    | none => rfl
    | some stamp => exact hstamp stamp hlast

/-- Every answer is consistent, whatever commits in between. -/
def CatalogConsistent (X : Externals) : Prop := ∀ r : CatalogRead, r.Consistent X

open FreshnessFixture in
/-- The first batch commits between the two statements. -/
def CatalogRead.duringBatch : CatalogRead where
  request := {}
  now := 0
  start := .empty
  before := [.mark 0]
  between := [.batch (calmEnv 0 FreshnessFixture.response) FreshnessFixture.response]

open FreshnessFixture in
/-- The answer counts no object and lists one, under the `ETag` of no object. -/
theorem not_catalogConsistent : ¬ CatalogConsistent externals := by
  intro h
  have hcurrent : ¬ CatalogRead.duringBatch.IsCurrent externals := nofun
  obtain ⟨hcount, -⟩ := h .duringBatch _ _ _ _ (CatalogRead.response_ok hcurrent)
  rw [length_catalogObjects] at hcount
  exact absurd hcount (by decide +kernel)

end VitaleBackend
