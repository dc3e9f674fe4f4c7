import VitaleBackend.Poller.Upsert
import VitaleBackend.Poller.Rotation
import Mathlib.Logic.Relation

/-!
# Decay is never observed

The decay rule fires when an object that is stored without a decay date comes in with one. The
SATCAT query asks for the entries without one (`DECAY/null-val`), so no record ever has one: an
object that decays only disappears from the responses. Over any history of Space-Track's catalogue
and of both pollers, an object stored undecayed stays so and no event is recorded
(`reaches_missed`).
-/

namespace VitaleBackend

open Process Relational

/-- Space-Track's catalogue, entry by entry, and the database. -/
structure World where
  catalogue : List Json
  db : Database

/-- An entry whose DECAY is null. -/
def DecayNull (entry : Json) : Prop := entry.field? "DECAY" = none

/-- Space-Track answers a query with `DECAY/null-val` with exactly the entries whose DECAY is
null. -/
def Answers (X : Externals) (w : World) (env : Nat → Call) : Prop :=
  ∀ i url reply, containsText url "/DECAY/null-val/" = true → (env i).reply url = .ok reply →
    200 ≤ reply.status → reply.status < 300 → ∃ entries, X.parse reply.body = some (.arr entries) ∧
      ∀ e, e ∈ entries ↔ e ∈ w.catalogue ∧ DecayNull e

/-- The world after a run of the SATCAT poller in a new process. -/
def World.satcat (X : Externals) (w : World) (env : Nat → Call) : World :=
  { w with db := ((satcatPoller X).run (Session.start w.db env)).2.db }

/-- The world after the GP part of a process. -/
def World.gp (X : Externals) (w : World) (env : Nat → Call) : World :=
  { w with db := (runGp X (Session.start w.db env)).2.db }

/-- One step of a history: the catalogue changes in any way, or a poller runs. -/
inductive World.Step (X : Externals) : World → World → Prop where
  | evolve (w : World) (catalogue : List Json) : Step X w { w with catalogue }
  | satcat {w : World} {env : Nat → Call} (h : Answers X w env) : Step X w (w.satcat X env)
  | gp (w : World) (env : Nat → Call) : Step X w (w.gp X env)

/-- Any number of steps. -/
abbrev World.Reaches (X : Externals) : World → World → Prop := Relation.ReflTransGen (World.Step X)

/-- A cycle whose fetch and batch upsert succeed. -/
def CycleSucceeds (X : Externals) (w : World) (env : Nat → Call) : Prop :=
  ∃ body s db', (satcatPoller X).fetch (Session.start w.db env) = (.ok (some body), s) ∧
    satcatBatch X s.call body w.db = some db'

/-- An object without a decay date, stored and in the catalogue. -/
structure InOrbit (x : Int) (w : World) : Prop where
  stored : ∃ o, w.db.objects.find? x = some o ∧ o.decayDate = none
  listed : ∃ e ∈ w.catalogue, intField e "NORAD_CAT_ID" = .ok x ∧ DecayNull e

/-- Space-Track's entry of an object has a decay date. -/
def Decayed (x : Int) (w : World) : Prop :=
  ∃ e ∈ w.catalogue, intField e "NORAD_CAT_ID" = .ok x ∧ ¬ DecayNull e

/-- The `decay_detected` events of an object. -/
def decayEvents (x : Int) (db : Database) : Nat :=
  (db.audtEvents.map (·.recorded)).countP fun r =>
    r.noradCatId = x ∧ r.event.eventTypeCode = "decay_detected"

/-- The decay of an object was observed between two worlds: the decay date is stored, one event was
recorded, and no later selection of targets takes the object. -/
structure DecayObserved (X : Externals) (x : Int) (w w' : World) : Prop where
  stored : ∃ o, w'.db.objects.find? x = some o ∧ o.decayDate ≠ none
  recorded : decayEvents x w'.db = decayEvents x w.db + 1
  excluded : ∀ w'', World.Reaches X w' w'' → ∀ n excludeIds,
    x ∉ Sql.topGpHotTargets n w''.db ∧ x ∉ Sql.nextGpRotationBatch n excludeIds w''.db

/-- Decay is observed: whenever an object in orbit decays, the first later cycle that succeeds (and
so any) has observed it. -/
def DecayIsObserved (X : Externals) : Prop :=
  ∀ x w w₁ w₂ env, InOrbit x w → World.Reaches X w w₁ → Decayed x w₁ → World.Reaches X w₁ w₂ →
    Answers X w₂ env → CycleSucceeds X w₂ env → DecayObserved X x w (w₂.satcat X env)

/-! ## What is missed -/

/-- The object is stored undecayed, with a number of `decay_detected` events. -/
structure Missed (x : Int) (n : Nat) (db : Database) : Prop where
  stored : ∃ o, db.objects.find? x = some o ∧ o.decayDate = none
  events : decayEvents x db = n

/-- An entry whose DECAY is null becomes a record without a decay date. -/
theorem ObjectRecord.parseOne_decayNull {j : Json} {obj : ObjectRecord} (hj : DecayNull j)
    (h : ObjectRecord.parseOne j = .ok obj) : obj.decayDate = none := by
  have hdecay := (parseOne_ok h).decayDate
  rw [optStrField_absent hj] at hdecay
  exact (Except.ok.inj hdecay).symm

/-- The events of a record without a decay date are none of them `decay_detected`. -/
theorem satcatEvents_decayNull {X : Externals} {obj : ObjectRecord} {db : Database}
    (hd : obj.decayDate = none) :
    ∀ e ∈ satcatEvents X makeDefaultObjectRuleRegistry obj db,
      e.eventTypeCode ≠ "decay_detected" := by
  intro e he
  unfold satcatEvents at he
  split at he
  · cases he
  · rcases mem_objectEvents he with ⟨-, -, hc⟩ | hc
    · exact absurd hd hc
    · intro heq
      rw [heq] at hc
      simp at hc

/-- Rows that record no decay do not change the count. -/
theorem decayEvents_append {x : Int} {db db' : Database} {rs : List RecordedEvent}
    (h : db'.audtEvents.map (·.recorded) = db.audtEvents.map (·.recorded) ++ rs)
    (hrs : ∀ r ∈ rs, r.event.eventTypeCode ≠ "decay_detected") :
    decayEvents x db' = decayEvents x db := by
  have hzero :
      rs.countP (fun r => r.noradCatId = x ∧ r.event.eventTypeCode = "decay_detected") = 0 :=
    List.countP_eq_zero.2 fun r hr => by simp [hrs r hr]
  unfold decayEvents
  rw [h, List.countP_append, hzero, Nat.add_zero]

/-- The upsert of a record without a decay date misses what was missed. -/
theorem UpsertedRow.missed {X : Externals} {call : Call} {obj : ObjectRecord} {db db' : Database}
    {x : Int} {n : Nat} (h : UpsertedRow X makeDefaultObjectRuleRegistry call obj db db')
    (hd : obj.decayDate = none) (hm : Missed x n db) : Missed x n db' := by
  obtain ⟨row, hr, ho⟩ := h.row
  obtain ⟨-, -, hrow⟩ := ObjectRow.ofRecord_ok hr
  obtain ⟨o, hx, hod⟩ := hm.stored
  constructor
  · rw [ho, Table.find?_upsert, hx]
    split
    · exact ⟨row.onConflict o, rfl, hrow hd⟩
    · exact ⟨o, rfl, hod⟩
  · rw [decayEvents_append h.audtEvents, hm.events]
    intro r hr
    obtain ⟨e, he, rfl⟩ := List.mem_map.1 hr
    exact satcatEvents_decayNull hd e he

/-- A GP run misses what was missed. -/
theorem GpAppends.missed {db db' : Database} {x : Int} {n : Nat} (h : GpAppends db db')
    (hm : Missed x n db) : Missed x n db' := by
  obtain ⟨rows, he, hc⟩ := h.audtEvents
  constructor
  · rw [h.objects]
    exact hm.stored
  · have hmap : db'.audtEvents.map (·.recorded) =
        db.audtEvents.map (·.recorded) ++ rows.map (·.recorded) := by rw [he, List.map_append]
    rw [decayEvents_append hmap, hm.events]
    intro r hr heq
    obtain ⟨row, hrow, rfl⟩ := List.mem_map.1 hr
    have hcode : row.eventTypeCode ∈ snapshotEventCodes := hc row hrow
    rw [show row.eventTypeCode = "decay_detected" from heq] at hcode
    simp [snapshotEventCodes] at hcode

/-- A response of entries whose DECAY is null, all of them, misses what was missed. -/
theorem satcatBatch_missed {X : Externals} {call : Call} {body : String} {db db' : Database}
    {entries : List Json} {x : Int} {n : Nat} (hp : X.parse body = some (.arr entries))
    (hnull : ∀ e ∈ entries, DecayNull e) (h : satcatBatch X call body db = some db')
    (hm : Missed x n db) : Missed x n db' := by
  obtain ⟨-, objs, hobjs, events, hu⟩ := satcatBatch_some h
  unfold parseSatcatResponse parseResponse at hobjs
  rw [hp] at hobjs
  refine upsertObjectsFromSatcat_preserves (fun obj ho db₁ db₂ hrow => ?_) hu hm
  obtain ⟨e, he, heo⟩ := exists_entry_of_mem hobjs ho
  exact hrow.missed (ObjectRecord.parseOne_decayNull (hnull e he) heo)

/-- A cycle that is answered as Space-Track answers misses what was missed. -/
theorem World.satcat_missed {X : Externals} {w : World} {env : Nat → Call} {x : Int} {n : Nat}
    (h : Answers X w env) (hm : Missed x n w.db) : Missed x n (w.satcat X env).db := by
  rcases satcat_run_db X (Session.start w.db env) with heq | ⟨body, s', hf, -, hb⟩
  · unfold World.satcat
    rw [heq]
    exact hm
  · obtain ⟨url, i, reply, hurl, hreply, hlo, hhi, rfl⟩ := fetch_some hf
    cases hurl
    obtain ⟨entries, hp, hmem⟩ := h i kSatcatUrl reply (by decide +kernel) hreply hlo hhi
    exact satcatBatch_missed hp (fun e he => ((hmem e).1 he).2) hb hm

/-- What was missed stays missed along every history. -/
theorem reaches_missed {X : Externals} {w w' : World} {x : Int} {n : Nat}
    (h : World.Reaches X w w') (hm : Missed x n w.db) : Missed x n w'.db := by
  induction h with
  | refl => exact hm
  | tail _ hstep ih =>
    cases hstep with
    | evolve => exact ih
    | satcat ha => exact World.satcat_missed ha ih
    | gp env => exact (runGp_within X _).1.missed ih

/-- The decay of an object in orbit is never observed. -/
theorem decay_never_observed {X : Externals} {x : Int} {w w₁ w₂ : World} {env : Nat → Call}
    (horbit : InOrbit x w) (h₁ : World.Reaches X w w₁) (_ : Decayed x w₁)
    (h₂ : World.Reaches X w₁ w₂) (ha : Answers X w₂ env) (_ : CycleSucceeds X w₂ env) :
    ¬ DecayObserved X x w (w₂.satcat X env) := by
  intro hobs
  have hm : Missed x (decayEvents x w.db) (w₂.satcat X env).db :=
    World.satcat_missed ha (reaches_missed h₂ (reaches_missed h₁ ⟨horbit.stored, rfl⟩))
  obtain ⟨o, ho, hd⟩ := hm.stored
  obtain ⟨o', ho', hd'⟩ := hobs.stored
  rw [ho] at ho'
  cases ho'
  exact hd' hd

namespace DecayFixture

/-- An entry of the catalogue. -/
def entry (number : String) (decay : Json) : Json :=
  .obj [("NORAD_CAT_ID", .str number), ("DECAY", decay)]

/-- The text of a response with the one entry that is left in orbit. -/
def response : String := "[\x7b\"NORAD_CAT_ID\":\"7\",\"DECAY\":null\x7d]"

/-- The response is parsed to its one entry. -/
def externals : Externals := .ofTables [(response, .arr [entry "7" .null])] [] []

/-- Two objects in orbit, of which `5` is stored. -/
def before : World where
  catalogue := [entry "5" .null, entry "7" .null]
  db := RotationFixture.catalogue 0

/-- The object `5` has decayed. -/
def after : World := { before with catalogue := [entry "5" (.str "2026-08-23"), entry "7" .null] }

/-- In the beginning the object is in orbit: it is stored without a decay date and listed without
one. -/
theorem inOrbit : InOrbit 5 before :=
  ⟨⟨_, rfl, rfl⟩, _, .head _, by decide +kernel, rfl⟩

/-- Then the catalogue has a date for it. -/
theorem decayed : Decayed 5 after := ⟨_, .head _, by decide +kernel, nofun⟩

/-- The catalogue changes and the tables do not. -/
theorem evolves : World.Reaches externals before after := .single (.evolve before _)

/-- The answer is the one that the query asks for: the entries without a decay date. -/
theorem answers : Answers externals after (calmEnv 0 response) := by
  intro i url reply _ hreply _ _
  cases hreply
  refine ⟨[entry "7" .null], rfl, fun e => ?_⟩
  constructor
  · intro he
    rw [List.mem_singleton.1 he]
    exact ⟨.tail _ (.head _), rfl⟩
  · rintro ⟨he, hnull⟩
    rcases List.mem_cons.1 he with rfl | he
    · cases hnull
    · exact he

/-- The cycle gets its answer and stores what is in it. -/
theorem cycleSucceeds : CycleSucceeds externals after (calmEnv 0 response) :=
  ⟨response, _, _, rfl, rfl⟩

end DecayFixture

open DecayFixture in
/-- After it the decay is not on record. -/
theorem decay_never_observed_five :
    ¬ DecayObserved externals 5 before (after.satcat externals (calmEnv 0 response)) :=
  decay_never_observed inOrbit evolves decayed .refl answers cycleSucceeds

open DecayFixture in
/-- The object decays, the next cycle succeeds, and the row still has no decay date. -/
theorem not_decayIsObserved : ¬ DecayIsObserved externals := by
  intro h
  obtain ⟨o, ho, hd⟩ := (h 5 before after after (calmEnv 0 response) inOrbit evolves decayed .refl
    answers cycleSucceeds).stored
  have hm : Missed 5 0 (after.satcat externals (calmEnv 0 response)).db :=
    World.satcat_missed answers ⟨⟨_, rfl, rfl⟩, rfl⟩
  obtain ⟨o', ho', hd'⟩ := hm.stored
  rw [ho] at ho'
  cases ho'
  exact hd hd'

end VitaleBackend
