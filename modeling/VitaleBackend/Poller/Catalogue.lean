import VitaleBackend.Cpp.Numeral
import VitaleBackend.Poller.Upsert

/-!
# Which numbers enter `objects`

The parser reads a missing number as `0` and a numeral by its longest prefix, and a body that is no
array as a list of what the range-`for` visits; the upsert checks nothing of its own. So the
catalogue holds real numbers only as long as no accepted body has an entry that the reading makes up
(`catalogue_real_iff`).
-/

namespace VitaleBackend

open Process Relational

/-! ## Runs of the SATCAT poller -/

/-- One process hands one body to `process_response`. -/
def receive (X : Externals) (db : Database) (r : (Nat → Call) × String) : Database :=
  (SatcatPoller.processResponse X r.2 (Session.start db r.1)).2.db

/-- One process after another. -/
def receiveAll (X : Externals) (db : Database) (rs : List ((Nat → Call) × String)) : Database :=
  rs.foldl (receive X) db

/-- The database before the first satcat run: nothing but the poller states. -/
def Database.fresh (pollerState : PollerState) : Database :=
  Database.empty.withPollerState pollerState

/-- A body that the poller stores when its transaction goes through. -/
def Accepted (X : Externals) (jsonBody : String) : Prop :=
  ∃ objs, parseSatcatResponse X jsonBody = .ok objs ∧ ∀ obj ∈ objs, obj.Storable X

/-- The number of a record is the one read from its entry. -/
theorem ObjectRecord.parseOne_noradCatId {j : Json} {obj : ObjectRecord}
    (h : ObjectRecord.parseOne j = .ok obj) : intField j "NORAD_CAT_ID" = .ok obj.noradCatId :=
  (parseOne_ok h).noradCatId

/-- A number is in the catalogue when it was read from a visited value of an accepted body. -/
theorem mem_receive {X : Externals} {db : Database} {r : (Nat → Call) × String} {k : Int} :
    k ∈ (receive X db r).objects.keys ↔ k ∈ db.objects.keys ∨
      (r.1 0).fault = .none ∧ Accepted X r.2 ∧
        ∃ v ∈ visited X r.2, intField v "NORAD_CAT_ID" = .ok k := by
  have hdb : receive X db r = (satcatBatch X (r.1 0) r.2 db).getD db :=
    satcat_processResponse_db X r.2 (Session.start db r.1)
  rw [hdb]
  cases hb : satcatBatch X (r.1 0) r.2 db with
  | none =>
    have hn : ¬ ((r.1 0).fault = .none ∧ Accepted X r.2) := by
      rintro ⟨hf, ha⟩
      obtain ⟨db', h⟩ : ∃ db', satcatBatch X (r.1 0) r.2 db = some db' :=
        satcatBatch_isSome.2 ⟨hf, ha⟩
      rw [hb] at h
      cases h
    rw [Option.getD_none, ← and_assoc]
    exact ⟨.inl, fun h => h.resolve_right fun h => hn h.1⟩
  | some db' =>
    obtain ⟨hf, objs, hp, events, hu⟩ := satcatBatch_some hb
    have ha : Accepted X r.2 := ⟨objs, hp, upsertObjectsFromSatcat_ok_iff.1 ⟨_, hu⟩⟩
    rw [Option.getD_some, upsertObjectsFromSatcat_keys hu k]
    have hread : (∃ obj ∈ objs, obj.noradCatId = k) ↔
        ∃ v ∈ visited X r.2, intField v "NORAD_CAT_ID" = .ok k := by
      have hentries := (parseResponse_ok.1 hp).2
      constructor
      · rintro ⟨obj, ho, rfl⟩
        obtain ⟨v, hv, hvo⟩ := exists_entry_of_mem hentries ho
        exact ⟨v, hv, ObjectRecord.parseOne_noradCatId hvo⟩
      · rintro ⟨v, hv, hvk⟩
        obtain ⟨obj, ho, hvo⟩ := exists_record_of_mem hentries hv
        rw [ObjectRecord.parseOne_noradCatId hvo] at hvk
        cases hvk
        exact ⟨obj, ho, rfl⟩
    rw [hread]
    exact or_congr Iff.rfl ⟨fun h => ⟨hf, ha, h⟩, fun h => h.2.2⟩

/-- The catalogue after a sequence of runs. -/
theorem mem_receiveAll {X : Externals} {k : Int} {rs : List ((Nat → Call) × String)}
    {db : Database} : k ∈ (receiveAll X db rs).objects.keys ↔ k ∈ db.objects.keys ∨
      ∃ r ∈ rs, (r.1 0).fault = .none ∧ Accepted X r.2 ∧
        ∃ v ∈ visited X r.2, intField v "NORAD_CAT_ID" = .ok k := by
  induction rs generalizing db with
  | nil => simp [receiveAll]
  | cons r rs ih =>
    rw [receiveAll, List.foldl_cons]
    refine (@ih (receive X db r)).trans ?_
    rw [mem_receive, List.exists_mem_cons_iff, or_assoc]

/-! ## Real numbers -/

/-- A text that is a whole decimal numeral, white space and sign aside. -/
def wholeNumeral (s : List Char) : Option Int :=
  let (negative, t) := scanSign (s.dropWhile isspace)
  if t.takeWhile Char.isDigit ≠ [] ∧ (t.dropWhile Char.isDigit).all isspace then
    some (withSign negative (digitsValue 10 (t.takeWhile Char.isDigit)))
  else none

/-- The numeral that is found is the one that the text spells. -/
theorem wholeNumeral_eq_some {s : List Char} {n : Int} :
    wholeNumeral s = some n ↔ Spells s n := by
  simp only [wholeNumeral, Option.ite_none_right_eq_some, Option.some.injEq]
  constructor
  · rintro ⟨⟨hne, hrest⟩, rfl⟩
    obtain ⟨gap, hgap, hs⟩ := exists_gap s
    obtain ⟨sign, hsign, hfield, hminus⟩ := scanSign_spec (skipSpace s)
    refine ⟨gap, sign, _, _, ?_, hgap, hsign, ⟨hne, fun c hc => List.mem_takeWhile_imp hc⟩,
      List.all_eq_true.1 hrest, by rw [← hminus]; rfl⟩
    rw [List.takeWhile_append_dropWhile]
    exact hs.trans (congrArg _ hfield)
  · rintro ⟨before, sign, digits, after, rfl, hbefore, hsign, hdigits, hafter, rfl⟩
    have hhead : ∀ c ∈ (digits ++ after).head?, c.isDigit = true := by
      intro c hc
      rw [List.head?_append_of_ne_nil _ hdigits.1] at hc
      exact hdigits.2 c (List.mem_of_mem_head? hc)
    have hskip := skipSpace_sign hbefore hsign hhead
    rw [skipSpace] at hskip
    rw [hskip, scanSign_digits hsign hdigits]
    dsimp only
    rw [LongestPrefix.takeWhile_append_of_head hdigits.2 hafter.head?,
      LongestPrefix.dropWhile_append_of_head hdigits.2 hafter.head?]
    exact ⟨⟨hdigits.1, List.all_eq_true.2 hafter⟩, rfl⟩

/-- The value of the `NORAD_CAT_ID` of an entry: a whole numeral, or a number that is an integer. -/
def noradCatIdOf (entry : Json) : Option Int :=
  match entry.field? "NORAD_CAT_ID" with
  | some (.str s) => wholeNumeral s.toList
  | some (.num (.fin q)) => if q.den = 1 then some q.num else none
  | _ => none

/-- A number that some entry of some received array has as its `NORAD_CAT_ID`. -/
def Catalogued (X : Externals) (bodies : List String) (n : Int) : Prop :=
  ∃ body ∈ bodies, ∃ elements, X.parse body = some (.arr elements) ∧
    ∃ entry ∈ elements, noradCatIdOf entry = some n

/-- Only real catalogue numbers are in `objects`. -/
def CatalogueReal (X : Externals) (bodies : List String) (db : Database) : Prop :=
  ∀ k ∈ db.objects.keys, 0 < k ∧ Catalogued X bodies k

/-- A visited value whose `NORAD_CAT_ID` is a text that begins with a positive catalogued number. -/
def Genuine (X : Externals) (bodies : List String) (v : Json) : Prop :=
  ∃ text n, v.field? "NORAD_CAT_ID" = some (.str text) ∧ strtol text.toList = some n ∧ 0 < n ∧
    Catalogued X bodies n

/-- Whether a number that was read is positive and catalogued is decided by the text it was read
from. -/
theorem genuine_iff {X : Externals} {bodies : List String} {v : Json} {n : Int}
    (hn : intField v "NORAD_CAT_ID" = .ok n) :
    Genuine X bodies v ↔ 0 < n ∧ Catalogued X bodies n := by
  rcases numField_ok hn with ⟨rfl, hempty⟩ | ⟨text, hv, hs⟩
  · -- a number that is absent or empty reads as zero
    refine ⟨?_, fun h => absurd h.1 (Int.lt_irrefl 0)⟩
    rintro ⟨text, m, ht, hm, -⟩
    rw [hempty text ht] at hm
    cases hm
  · have hm : strtol text.toList = some n := strtol_eq_some.2 (stoi_eq_ok.1 hs).2
    constructor
    · rintro ⟨text', m, ht, hm', h⟩
      rw [hv] at ht
      cases ht
      rw [hm] at hm'
      cases hm'
      exact h
    · rintro ⟨hpos, hc⟩
      exact ⟨text, n, hv, hm, hpos, hc⟩

/-- Only real catalogue numbers enter `objects` exactly when every visited value of every stored
body is genuine. -/
theorem catalogue_real_iff (X : Externals) (pollerState : PollerState)
    (rs : List ((Nat → Call) × String)) :
    CatalogueReal X (rs.map (·.2)) (receiveAll X (Database.fresh pollerState) rs) ↔
      ∀ r ∈ rs, (r.1 0).fault = .none → Accepted X r.2 →
        ∀ v ∈ visited X r.2, Genuine X (rs.map (·.2)) v := by
  have hempty : ∀ k, k ∉ (Database.fresh pollerState).objects.keys := fun k => List.not_mem_nil
  constructor
  · intro h r hr hf ha v hv
    obtain ⟨objs, hp, hs⟩ := ha
    obtain ⟨obj, ho, hvo⟩ := exists_record_of_mem (parseResponse_ok.1 hp).2 hv
    have hn := ObjectRecord.parseOne_noradCatId hvo
    refine (genuine_iff hn).2 (h _ ?_)
    exact mem_receiveAll.2 (.inr ⟨r, hr, hf, ⟨objs, hp, hs⟩, v, hv, hn⟩)
  · intro h k hk
    rcases mem_receiveAll.1 hk with hk | ⟨r, hr, hf, ha, v, hv, hn⟩
    · exact absurd hk (hempty k)
    · exact (genuine_iff hn).1 (h r hr hf ha v hv)

namespace CatalogueFixture

/-- An error answer of Space-Track: an object, which is no array of entries. -/
def errorText : String := "\x7b\"error\":\"You must be logged in to complete this action\"\x7d"

/-- The error object that Space-Track answers with when the login has expired, and nothing else. -/
def externals : Externals :=
  .ofTables
    [(errorText, .obj [("error", .str "You must be logged in to complete this action")])] [] []

/-- The range-`for` visits the message, and the parser reads a record without a number from it. -/
theorem phantom_row : ¬ CatalogueReal externals [errorText]
    (receiveAll externals (Database.fresh .empty) [(calmEnv 0 errorText, errorText)]) := by
  intro h
  have h0 : (0 : Int) ∈ (receiveAll externals (Database.fresh .empty)
      [(calmEnv 0 errorText, errorText)]).objects.keys := by decide +kernel
  exact absurd (h 0 h0).1 (Int.lt_irrefl 0)

end CatalogueFixture

end VitaleBackend
