import Mathlib.Data.Int.ConditionallyCompleteOrder
import VitaleBackend.Api.Catalog
import VitaleBackend.Lib.Validator
import VitaleBackend.Poller.Catalogue
import VitaleBackend.Poller.Rotation

/-!
# The freshness of a 304

A site is the database and what works on it: satcat processes, which check whether they are due,
stamp their run and later commit a batch or roll it back, and the API, which counts hits and answers
`/objects/catalog`. Each step is one transaction. The validators of an answer are those of the
stamp, and the batch of that stamp comes after it, so that a copy handed out in between keeps
validating when the batch has changed the list (`not_catalogNeverStale`). `catalog_never_stale` is
what does hold: no 304 is stale in a run in which nobody asks between a stamp and a batch of it that
changes the list.
-/

namespace VitaleBackend

open Process Relational Validator

/-! ## The site -/

/-- A 200 answer, and the time that its validators stand for. -/
structure CatalogAnswer where
  genTs : Timestamp
  headers : CacheHeaders
  objects : List Json

/-- The database and its clock, the satcat processes between their check and their stamp (`due`) and
between their stamp and the end of their batch (`stamped`), and the 200 answers so far. -/
structure Site where
  db : Database
  clock : Timestamp
  due : Nat
  stamped : Nat
  answered : List CatalogAnswer

/-- A transaction. A batch is one response handed to `process_response`, with what happens to its
call; a request may fail to connect. -/
inductive Action where
  | check (now : Timestamp)
  | mark (now : Timestamp)
  | batch (env : Nat → Call) (jsonBody : String)
  | hit (noradCatId : Int)
  | request (now : Timestamp) (req : CatalogRequest) (failure : Option Exn)

/-- The answers after one more response. -/
def recordAnswer (genTs : Timestamp) (answered : List CatalogAnswer) :
    CatalogResponse → List CatalogAnswer
  | .ok headers _ _ objects => answered ++ [⟨genTs, headers, objects⟩]
  | _ => answered

namespace Site

/-- One transaction, when it can happen: the clock does not go back, and a process goes through its
transactions in their order. -/
def step (X : Externals) (s : Site) : Action → Option Site
  | .check now =>
    if s.clock ≤ now ∧ Sql.isPollerDue "satcat" kSatcatInterval now s.db = true then
      some { s with clock := now, due := s.due + 1 }
    else none
  | .mark now =>
    if s.clock ≤ now ∧ 0 < s.due then
      some { s with
        db := Sql.markPollerRun "satcat" now s.db
        clock := now
        due := s.due - 1
        stamped := s.stamped + 1 }
    else none
  | .batch env jsonBody =>
    if 0 < s.stamped then
      some { s with db := receive X s.db (env, jsonBody), stamped := s.stamped - 1 }
    else none
  | .hit noradCatId => some { s with db := Sql.countHit noradCatId s.db }
  | .request now req failure =>
    if s.clock ≤ now then
      some { s with
        clock := now
        answered := recordAnswer (genTs now s.db) s.answered
          (catalog X req (failure.elim (.ok now) .error) s.db) }
    else none

/-- One transaction after another. -/
def run (X : Externals) : List Action → Site → Option Site
  | [], s => some s
  | a :: as, s => (s.step X a).bind (run X as)

/-- Before the first step: no process is on its way, and the stamp is one of the past. -/
structure Start (s : Site) : Prop where
  clock : 0 ≤ s.clock
  stamp : ∀ row ∈ s.db.pollerState.find? "satcat", 0 ≤ row.lastRunAt ∧ row.lastRunAt ≤ s.clock
  due : s.due = 0
  stamped : s.stamped = 0
  answered : s.answered = []

/-- A request that shows the validators of an answer: its tag, or its date without a tag. -/
def Revalidates (req : CatalogRequest) (a : CatalogAnswer) : Prop :=
  req.ifNoneMatch = a.headers.etag ∨
    (req.ifNoneMatch = "" ∧ req.ifModifiedSince = a.headers.lastModified)

/-- Whoever shows the validators of an answer from now on and gets a 304 has the present list. -/
def NeverStale (X : Externals) (s : Site) : Prop :=
  ∀ a ∈ s.answered, ∀ now, s.clock ≤ now → ∀ req headers, Revalidates req a →
    catalog X req (.ok now) s.db = .notModified headers →
      listed (catalogObjects X s.db) = listed a.objects

/-- A batch changes nothing that is listed, or every answer so far was given in an earlier second
than its stamp: earlier when both are rounded, and, unless it has fewer objects than there are after
the batch, also when both are cut off. -/
def Timely (X : Externals) (s : Site) : Action → Prop
  | .batch env jsonBody =>
    listed (catalogObjects X (receive X s.db (env, jsonBody))) = listed (catalogObjects X s.db) ∨
      ∀ a ∈ s.answered, ∀ row ∈ s.db.pollerState.find? "satcat",
        extractEpoch a.genTs < extractEpoch row.lastRunAt ∧
          (wholeSecond a.genTs < wholeSecond row.lastRunAt ∨
            a.objects.length < (receive X s.db (env, jsonBody)).objects.rows.length)
  | _ => True

/-- Every step of the run is timely. -/
def AllTimely (X : Externals) : List Action → Site → Prop
  | [], _ => True
  | a :: as, s => s.Timely X a ∧ ∀ s' ∈ s.step X a, AllTimely X as s'

end Site

/-! ## What the steps keep -/

/-- What every row of a batch keeps, a response does. -/
theorem receive_preserves {X : Externals} {P : Database → Prop} {db : Database}
    {r : (Nat → Call) × String} (hp : P db) (hrow : ∀ call obj db db',
      UpsertedRow X makeDefaultObjectRuleRegistry call obj db db' → P db → P db') :
    P (receive X db r) := by
  have hdb : receive X db r = (satcatBatch X (r.1 0) r.2 db).getD db :=
    satcat_processResponse_db X r.2 (Session.start db r.1)
  rw [hdb]
  cases hb : satcatBatch X (r.1 0) r.2 db with
  | none => exact hp
  | some db' =>
    obtain ⟨-, objs, -, events, hu⟩ := satcatBatch_some hb
    exact upsertObjectsFromSatcat_preserves (fun obj _ db db' h => hrow _ obj db db' h) hu hp

/-- A response of the satcat poller writes no row of `poller_state`: the stamp comes before it. -/
theorem receive_pollerState (X : Externals) (db : Database) (r : (Nat → Call) × String) :
    (receive X db r).pollerState = db.pollerState :=
  receive_preserves (P := fun db' => db'.pollerState = db.pollerState) rfl
    fun _ _ _ _ h hp => h.pollerState.trans hp

/-- A response takes no object away. -/
theorem length_le_receive (X : Externals) (db : Database) (r : (Nat → Call) × String) :
    db.objects.rows.length ≤ (receive X db r).objects.rows.length := by
  refine receive_preserves (P := fun db' => db.objects.rows.length ≤ db'.objects.rows.length)
    (le_refl _) fun call obj db₁ db₂ h hp => hp.trans ?_
  obtain ⟨row, -, ho⟩ := h.row
  rw [ho]
  exact Table.length_le_upsert _ _ _ _

/-! ## The invariant -/

/-- What an `ETag` says: the second of the stamp and the number of objects. -/
def tagKey (now : Timestamp) (db : Database) : Int × Nat :=
  (wholeSecond (genTs now db), db.objects.rows.length)

/-- What a `Last-Modified` says. -/
def dateKey (now : Timestamp) (db : Database) : Int := extractEpoch (genTs now db)

/-- Time moves the keys on when no process stamps. -/
theorem genTs_mono {now now' : Timestamp} (db : Database) (h : now ≤ now') :
    genTs now db ≤ genTs now' db := by
  cases hrow : db.pollerState.find? "satcat" with
  | none =>
    rw [genTs_none hrow, genTs_none hrow]
    exact h
  | some row => rw [genTs_some hrow, genTs_some hrow]

/-- Keys follow the time of the stamp and the number of objects. -/
theorem tagKey_mono {now now' : Timestamp} {db db' : Database}
    (hgen : genTs now db ≤ genTs now' db')
    (hlen : db.objects.rows.length ≤ db'.objects.rows.length) : tagKey now db ≤ tagKey now' db' :=
  ⟨wholeSecond_mono hgen, hlen⟩

namespace CatalogAnswer

/-- An answer as a copy under its tag, for the part of the argument that is about `If-None-Match`.
-/
def tagCopy (a : CatalogAnswer) : Copy (Int × Nat) (List Json) :=
  ⟨(wholeSecond a.genTs, a.objects.length), listed a.objects⟩

/-- An answer as a copy under its date, for the part about `If-Modified-Since`. -/
def dateCopy (a : CatalogAnswer) : Copy Int (List Json) := ⟨extractEpoch a.genTs, listed a.objects⟩

/-- The headers are those of the time and of the list. -/
structure Valid (a : CatalogAnswer) : Prop where
  genTs : 0 ≤ a.genTs
  headers : a.headers = catalogHeaders (.of a.genTs a.objects.length)

end CatalogAnswer

namespace Site

/-- The stamp is one of the past, a stamped process has stamped, and the answers are coherent under
both validators. -/
structure Inv (X : Externals) (s : Site) : Prop where
  clock : 0 ≤ s.clock
  stamp : ∀ row ∈ s.db.pollerState.find? "satcat", 0 ≤ row.lastRunAt ∧ row.lastRunAt ≤ s.clock
  stamped : 0 < s.stamped → ∃ row, s.db.pollerState.find? "satcat" = some row
  valid : ∀ a ∈ s.answered, a.Valid
  tags : Coherent (tagKey s.clock s.db) (listed (catalogObjects X s.db))
      (s.answered.map (·.tagCopy))
  dates : Coherent (dateKey s.clock s.db) (listed (catalogObjects X s.db))
    (s.answered.map (·.dateCopy))

section
variable {X : Externals} {s s' : Site}

/-- The invariant holds before the first step, when there is no answer yet. -/
theorem Start.inv (h : s.Start) : s.Inv X where
  clock := h.clock
  stamp := h.stamp
  stamped := fun hs => absurd h.stamped hs.ne'
  valid := by
    rw [h.answered]
    exact List.forall_mem_nil _
  tags := by
    rw [h.answered]
    exact .nil
  dates := by
    rw [h.answered]
    exact .nil

/-- Generation times are times after 1970: those of stamps by the invariant, and `now()` because the
clock is past that. -/
theorem Inv.genTs_nonneg (h : s.Inv X) {now : Timestamp} (hnow : s.clock ≤ now) :
    0 ≤ genTs now s.db := by
  cases hrow : s.db.pollerState.find? "satcat" with
  | none =>
    rw [genTs_none hrow]
    exact h.clock.trans hnow
  | some row =>
    rw [genTs_some hrow]
    exact (h.stamp row hrow).1

/-- The passing of time keeps the invariant: without a stamp the validators move on with the clock.
-/
theorem Inv.tick (h : s.Inv X) {now : Timestamp} (hnow : s.clock ≤ now) :
    Inv X { s with clock := now } where
  clock := h.clock.trans hnow
  stamp := fun row hrow => ⟨(h.stamp row hrow).1, (h.stamp row hrow).2.trans hnow⟩
  stamped := h.stamped
  valid := h.valid
  tags := h.tags.advance (tagKey_mono (genTs_mono s.db hnow) (le_refl _))
  dates := h.dates.advance (extractEpoch_mono (genTs_mono s.db hnow))

/-- A stamp of the present moves the keys on. -/
theorem Inv.mark (h : s.Inv X) {now : Timestamp} (hnow : s.clock ≤ now) : Inv X
    { s with
      db := Sql.markPollerRun "satcat" now s.db
      clock := now
      due := s.due - 1
      stamped := s.stamped + 1 } := by
  obtain ⟨row, hrow, hlast⟩ := Sql.find?_markPollerRun "satcat" now s.db
  have hgen : genTs s.clock s.db ≤
      genTs now (Sql.markPollerRun "satcat" now s.db) := by
    rw [genTs_some hrow, hlast]
    cases hold : s.db.pollerState.find? "satcat" with
    | none =>
      rw [genTs_none hold]
      exact hnow
    | some old =>
      rw [genTs_some hold]
      exact (h.stamp old hold).2.trans hnow
  refine ⟨h.clock.trans hnow, fun r hr => ?_, fun _ => ⟨row, hrow⟩, h.valid,
    h.tags.advance (tagKey_mono hgen (le_refl _)), h.dates.advance (extractEpoch_mono hgen)⟩
  cases hrow.symm.trans hr
  rw [hlast]
  exact ⟨h.clock.trans hnow, le_refl now⟩

/-- The keys of the answers so far are behind a batch that is timely, or its list is the present
one. -/
theorem Inv.batch (h : s.Inv X) {env : Nat → Call} {jsonBody : String} (hs : 0 < s.stamped)
    (htimely : s.Timely X (.batch env jsonBody)) : Inv X
    { s with db := receive X s.db (env, jsonBody), stamped := s.stamped - 1 } := by
  obtain ⟨row, hrow⟩ := h.stamped hs
  have hstate := receive_pollerState X s.db (env, jsonBody)
  have hrow' : (receive X s.db (env, jsonBody)).pollerState.find? "satcat" = some row := by
    rw [hstate, hrow]
  have hgen' : genTs s.clock (receive X s.db (env, jsonBody)) = row.lastRunAt := genTs_some hrow'
  have hgen : genTs s.clock s.db ≤ genTs s.clock (receive X s.db (env, jsonBody)) := by
    rw [hgen', genTs_some hrow]
  have htag : tagKey s.clock s.db ≤ tagKey s.clock (receive X s.db (env, jsonBody)) :=
    tagKey_mono hgen (length_le_receive X s.db (env, jsonBody))
  have hdate : dateKey s.clock s.db ≤ dateKey s.clock (receive X s.db (env, jsonBody)) :=
    extractEpoch_mono hgen
  refine ⟨h.clock, fun r hr => ?_, fun _ => ⟨row, hrow'⟩, h.valid, ?_, ?_⟩
  · rw [hstate] at hr
    exact h.stamp r hr
  · rcases htimely with hsame | hbehind
    · rw [hsame]
      exact h.tags.advance htag
    · refine h.tags.write htag (List.forall_mem_map.2 fun a ha _ => ?_)
      have hle : a.tagCopy.key ≤ tagKey s.clock (receive X s.db (env, jsonBody)) :=
        (h.tags.past _ (List.mem_map_of_mem ha)).trans htag
      rw [tagKey, hgen'] at hle ⊢
      rcases (hbehind a ha row hrow).2 with hlt | hlt
      · exact Prod.lt_iff.2 (.inl ⟨hlt, hle.2⟩)
      · exact Prod.lt_iff.2 (.inr ⟨hle.1, hlt⟩)
  · rcases htimely with hsame | hbehind
    · rw [hsame]
      exact h.dates.advance hdate
    · refine h.dates.write hdate (List.forall_mem_map.2 fun a ha _ => ?_)
      rw [dateKey, hgen']
      exact (hbehind a ha row hrow).1

/-- A hit keeps the invariant: it changes nothing that is listed. -/
theorem Inv.hit (h : s.Inv X) (noradCatId : Int) :
    Inv X { s with db := Sql.countHit noradCatId s.db } := by
  have hlen : (Sql.countHit noradCatId s.db).objects.rows.length = s.db.objects.rows.length := by
    rw [Sql.countHit_rows, List.length_map]
  refine ⟨h.clock, h.stamp, h.stamped, h.valid, ?_, ?_⟩
  · show Coherent (tagKey s.clock (Sql.countHit noradCatId s.db)) _ _
    rw [listed_countHit]
    exact h.tags.advance (tagKey_mono (le_refl _) hlen.ge)
  · rw [listed_countHit]
    exact h.dates.advance (le_refl _)

/-- The time of an answer is that of the present keys. -/
theorem Inv.request (h : s.Inv X) {now : Timestamp} (hnow : s.clock ≤ now) (req : CatalogRequest)
    (failure : Option Exn) : Inv X
    { s with
      clock := now
      answered := recordAnswer (genTs now s.db) s.answered
        (catalog X req (failure.elim (.ok now) .error) s.db) } := by
  have htick := h.tick hnow
  cases failure with
  | some e => exact htick
  | none =>
    simp only [Option.elim, catalog, catalogResponse]
    split
    · exact htick
    · have hvalid : CatalogAnswer.Valid ⟨genTs now s.db,
          catalogHeaders (catalogMeta now s.db), catalogObjects X s.db⟩ :=
        ⟨h.genTs_nonneg hnow, by rw [length_catalogObjects, catalogMeta]⟩
      refine ⟨htick.clock, htick.stamp, htick.stamped, List.forall_mem_append.2
        ⟨h.valid, List.forall_mem_singleton.2 hvalid⟩, ?_, ?_⟩
      · simpa [recordAnswer, CatalogAnswer.tagCopy, tagKey, length_catalogObjects]
          using htick.tags.serve
      · simpa [recordAnswer, CatalogAnswer.dateCopy, dateKey] using htick.dates.serve

/-- Every timely step keeps the invariant. The cases are the transactions. -/
theorem Inv.step (h : s.Inv X) {a : Action} (htimely : s.Timely X a)
    (hstep : s.step X a = some s') :
    s'.Inv X := by
  cases a with
  | check now =>
    obtain ⟨⟨hnow, -⟩, ⟨⟩⟩ := Option.ite_none_right_eq_some.1 hstep
    exact ⟨(h.tick hnow).clock, (h.tick hnow).stamp, h.stamped, h.valid, (h.tick hnow).tags,
      (h.tick hnow).dates⟩
  | mark now =>
    obtain ⟨⟨hnow, -⟩, ⟨⟩⟩ := Option.ite_none_right_eq_some.1 hstep
    exact h.mark hnow
  | batch env jsonBody =>
    obtain ⟨hs, ⟨⟩⟩ := Option.ite_none_right_eq_some.1 hstep
    exact h.batch hs htimely
  | hit noradCatId =>
    cases hstep
    exact h.hit noradCatId
  | request now req failure =>
    obtain ⟨hnow, ⟨⟩⟩ := Option.ite_none_right_eq_some.1 hstep
    exact h.request hnow req failure

/-- Every timely run keeps the invariant, by induction on its steps. -/
theorem Inv.run {actions : List Action} (h : s.Inv X) (htimely : AllTimely X actions s)
    (hrun : run X actions s = some s') : s'.Inv X := by
  induction actions generalizing s with
  | nil =>
    cases hrun
    exact h
  | cons a as ih =>
    obtain ⟨s₁, hstep, hrun⟩ := Option.bind_eq_some_iff.1 hrun
    exact ih (h.step htimely.1 hstep) (htimely.2 s₁ hstep) hrun

/-- Under the invariant no 304 is stale. -/
theorem Inv.neverStale (h : s.Inv X) : s.NeverStale X := by
  intro a ha now hnow req headers hreq hresponse
  have hmodified := catalog_notModified.1 ⟨headers, hresponse⟩
  have hvalid := h.valid a ha
  have htick := h.tick hnow
  rcases hreq with htag | ⟨hnone, hdate⟩
  · rw [hvalid.headers] at htag
    have hetag := (notModified_etag htag).1 hmodified
    obtain ⟨hsecond, hcount⟩ := etag_inj.1 hetag
    have hkey : a.tagCopy.key = tagKey now s.db := Prod.ext hsecond hcount
    exact (htick.tags.content_eq (List.mem_map_of_mem ha) hkey.not_lt).symm
  · rw [hvalid.headers] at hdate
    have hle : extractEpoch (genTs now s.db) ≤ extractEpoch a.genTs :=
      ((notModified_lastModified hnone hdate).1 hmodified).2
    exact (htick.dates.content_eq (List.mem_map_of_mem ha) hle.not_gt).symm

/-- After a batch that is not timely some 304 is stale: no 304 is stale after a batch exactly when
it is timely, as long as the years of the answers can be read. -/
theorem Inv.neverStale_batch_iff (h : s.Inv X) {env : Nat → Call} {jsonBody : String}
    (hs : 0 < s.stamped)
    (hyear : ∀ a ∈ s.answered, (gmtimeR (extractEpoch a.genTs)).year + 1900 < 10 ^ 4) :
    NeverStale X { s with db := receive X s.db (env, jsonBody), stamped := s.stamped - 1 } ↔
      s.Timely X (.batch env jsonBody) := by
  refine ⟨fun hfresh => ?_, fun htimely => (h.batch hs htimely).neverStale⟩
  by_cases hsame :
    listed (catalogObjects X (receive X s.db (env, jsonBody))) = listed (catalogObjects X s.db)
  · exact .inl hsame
  refine .inr fun a ha row hrow => ?_
  have hvalid := h.valid a ha
  have hlen := length_le_receive X s.db (env, jsonBody)
  have hgen : genTs s.clock s.db = row.lastRunAt := genTs_some hrow
  by_cases hcopy :
    listed a.objects = listed (catalogObjects X (receive X s.db (env, jsonBody)))
  · -- an answer of the list to come is outdated now
    have hne : listed a.objects ≠ listed (catalogObjects X s.db) :=
      fun heq => hsame (hcopy.symm.trans heq)
    have hdate := h.dates.behind _ (List.mem_map_of_mem ha) hne
    have htag := h.tags.behind _ (List.mem_map_of_mem ha) hne
    rw [dateKey, hgen] at hdate
    rw [tagKey, hgen] at htag
    refine ⟨hdate, ?_⟩
    rcases Prod.lt_iff.1 htag with ⟨hlt, -⟩ | ⟨-, hlt⟩
    · exact .inl hlt
    · exact .inr (hlt.trans_le hlen)
  · have hgen' : genTs s.clock (receive X s.db (env, jsonBody)) = row.lastRunAt :=
      genTs_some (by rw [receive_pollerState, hrow])
    have hstale : ∀ req, Revalidates req a →
        notModified req (catalogMeta s.clock (receive X s.db (env, jsonBody))) ≠ true := by
      intro req hreq hmodified
      obtain ⟨headers, hresponse⟩ := catalog_notModified.2 hmodified
      exact hcopy (hfresh a ha s.clock (le_refl _) req headers hreq hresponse).symm
    constructor
    · by_contra hlt
      refine hstale { ifModifiedSince := a.headers.lastModified } (.inr ⟨rfl, rfl⟩) ?_
      have hscanned : IsScannedYear ((gmtimeR (extractEpoch a.genTs)).year + 1900) := by
        have hnonneg := gmtimeR_year (extractEpoch_nonneg hvalid.genTs)
        exact ⟨by omega, hyear a ha⟩
      refine (notModified_lastModified rfl (by rw [hvalid.headers]; rfl)).2 ⟨hscanned, ?_⟩
      rw [catalogMeta, hgen']
      exact Int.not_lt.1 hlt
    · by_contra hlt
      obtain ⟨hsecond, hcount⟩ := not_or.1 hlt
      have hpast := h.tags.past _ (List.mem_map_of_mem ha)
      rw [tagKey, hgen] at hpast
      refine hstale { ifNoneMatch := a.headers.etag } (.inl rfl) ?_
      refine (notModified_etag (by rw [hvalid.headers]; rfl)).2 ?_
      rw [catalogMeta, hgen']
      exact etag_inj.2
        ⟨hpast.1.antisymm (Int.not_lt.1 hsecond),
          Nat.le_antisymm (hpast.2.trans hlen) (Nat.not_lt.1 hcount)⟩

end

end Site

open Site in
/-- In every run whose steps are all timely, a 304 is never stale. -/
theorem catalog_never_stale {X : Externals} {s₀ s : Site} {actions : List Action}
    (hstart : s₀.Start)
    (htimely : AllTimely X actions s₀) (hrun : run X actions s₀ = some s) : s.NeverStale X :=
  (hstart.inv.run htimely hrun).neverStale

/-- No run ever comes to where a 304 is stale. -/
def CatalogNeverStale (X : Externals) : Prop :=
  ∀ (s₀ s : Site) (actions : List Action), s₀.Start → Site.run X actions s₀ = some s →
    s.NeverStale X

namespace FreshnessFixture

/-- A response that gives the one object a name. -/
def response : String := "[\x7b\"NORAD_CAT_ID\":\"5\",\"OBJECT_NAME\":\"VANGUARD 1\"\x7d]"

/-- One body, with one entry. -/
def externals : Externals := .ofTables
  [(response, .arr [.obj [("NORAD_CAT_ID", .str "5"), ("OBJECT_NAME", .str "VANGUARD 1")]])] [] []

/-- One object, and no run of the poller yet. -/
def start : Site := ⟨RotationFixture.catalogue 0, 0, 0, 0, []⟩

/-- An empty catalogue at the start of the clock. -/
theorem start_start : start.Start :=
  ⟨le_refl 0, fun _ h => (nomatch (h : none = some _)), rfl, rfl, rfl⟩

/-- The answer to a request under a stamp of time `0`, before the batch. -/
def answer : CatalogAnswer :=
  ⟨0, catalogHeaders (.of 0 1), catalogObjects externals (RotationFixture.catalogue 0)⟩

/-- The tables after a stamp and the batch of the body. -/
def named (now : Timestamp) : Database :=
  receive externals (Sql.markPollerRun "satcat" now (RotationFixture.catalogue 0))
    (calmEnv 0 response, response)

/-- A client asks between the stamp and the batch. -/
def early : List Action :=
  [.check 0, .mark 0, .request 1000000 {} none, .batch (calmEnv 0 response) response]

/-- A request between the stamp and the batch gets the answer under the stamp's tag. -/
theorem early_run : Site.run externals early start = some ⟨named 0, 1000000, 0, 0, [answer]⟩ := rfl

/-- The names in a list of the catalogue. -/
def names (objects : List Json) : List (Option String) :=
  objects.map fun j => (strField j "object_name").toOption

/-- The tag of the answer is still that of the named catalogue. -/
theorem stale : ∃ headers, catalog externals { ifNoneMatch := answer.headers.etag }
    (.ok 2000000) (named 0) = .notModified headers :=
  catalog_notModified.2 (by decide +kernel)

/-- What that answer lists: the object before the batch. -/
theorem names_answer : names (listed answer.objects) = [some ""] := by decide +kernel

/-- What the batch makes of it. -/
theorem names_named :
    names (listed (catalogObjects externals (named 0))) = [some "VANGUARD 1"] := by
  decide +kernel

/-- A client asks before the stamp, and again after the batch. -/
def late : List Action :=
  [.request 0 {} none, .check 1000000, .mark 1000000, .batch (calmEnv 0 response) response,
    .request 2000000 { ifNoneMatch := answer.headers.etag } none]

/-- In the other run the request comes when the batch is over, a second later. -/
theorem late_run : Site.run externals late start = some ⟨named 1000000, 2000000, 0, 0,
    [answer, ⟨1000000, catalogHeaders (.of 1000000 1),
    catalogObjects externals (named 1000000)⟩]⟩ :=
  rfl

/-- The batch comes a second after the answer that it makes outdated. -/
theorem late_timely : Site.AllTimely externals late start := by
  refine ⟨trivial, fun _ h => ?_⟩
  cases h
  refine ⟨trivial, fun _ h => ?_⟩
  cases h
  refine ⟨trivial, fun _ h => ?_⟩
  cases h
  refine ⟨?_, fun _ h => ?_⟩
  · refine .inr fun a ha row hrow => ?_
    cases hrow
    rw [List.mem_singleton.1 ha]
    decide +kernel
  · cases h
    exact ⟨trivial, fun _ _ => trivial⟩

end FreshnessFixture

open FreshnessFixture in
/-- So no 304 is stale in the other run. -/
theorem catalog_never_stale_late : Site.NeverStale externals ⟨named 1000000, 2000000, 0, 0,
    [answer, ⟨1000000, catalogHeaders (.of 1000000 1),
    catalogObjects externals (named 1000000)⟩]⟩ :=
  catalog_never_stale start_start late_timely late_run

open FreshnessFixture in
/-- The client asked between the stamp and the batch, and its list stays without the name. -/
theorem not_catalogNeverStale : ¬ CatalogNeverStale externals := by
  intro h
  obtain ⟨headers, hstale⟩ := stale
  have hlist := h start _ early start_start early_run answer (.head _) 2000000 (by decide)
    { ifNoneMatch := answer.headers.etag } headers (.inl rfl) hstale
  have hnames := congrArg names hlist
  rw [names_answer, names_named] at hnames
  exact absurd hnames (by decide)

end VitaleBackend
