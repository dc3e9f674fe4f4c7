import VitaleBackend.Poller.Frames
import VitaleBackend.Lib.Sweep

/-!
# The GP rotation

`next_gp_rotation_batch` and the cursor, over any sequence of GP runs. A `GpRun` carries the tables
each of its steps finds, so that between two runs, and between the two selects of one run, anything
may happen to the catalogue; only the cursor is the runs' own. Each run is a visit of a sweep over
the undecayed objects (`GpRun.visit_sound`), and what `Sweep.covered_between_wraps` says of a sweep
is `rotation_never_skips`.
-/

namespace VitaleBackend

open Process Relational Sweep

/-- An object that is in the catalogue and has not decayed. -/
def Undecayed (db : Database) (x : Int) : Prop :=
  ∃ o ∈ db.objects.rows, o.noradCatId = x ∧ o.decayDate = none

/-! ## What a select of targets takes -/

namespace Sql

section
variable {objects : Objects} {bound : Option Int} {excludeIds : List Int} {limit : Nat} {x y : Int}

/-- The rows a select of targets orders. -/
def targetRows (objects : Objects) (bound : Option Int) (excludeIds : List Int) : List ObjectRow :=
  objects.rows.filter fun o =>
    o.decayDate.isNone ∧ (∀ c ∈ bound, c < o.noradCatId) ∧ o.noradCatId ∉ excludeIds

/-- A select takes the first rows that it may take, in the order of their numbers. -/
theorem selectTargets_eq : selectTargets objects bound excludeIds limit =
    (firstBy byNoradCatId limit (targetRows objects bound excludeIds)).map (·.noradCatId) := rfl

/-- An undecayed object past the bound that is not excluded is among the rows to order. -/
theorem mem_targetRows {db : Database} (hx : Undecayed db x) (hb : ∀ c ∈ bound, c < x)
    (he : x ∉ excludeIds) : ∃ o ∈ targetRows db.objects bound excludeIds, o.noradCatId = x := by
  obtain ⟨o, ho, rfl, hd⟩ := hx
  refine ⟨o, List.mem_filter.2 ⟨ho, ?_⟩, rfl⟩
  simp only [decide_eq_true_eq]
  exact ⟨by rw [hd]; rfl, hb, he⟩

/-- A select that comes back short of its limit has every object it may take. -/
theorem mem_selectTargets_of_short {db : Database}
    (h : (selectTargets db.objects bound excludeIds limit).length < limit) (hx : Undecayed db x)
    (hb : ∀ c ∈ bound, c < x) (he : x ∉ excludeIds) :
    x ∈ selectTargets db.objects bound excludeIds limit := by
  obtain ⟨o, ho, rfl⟩ := mem_targetRows hx hb he
  rw [selectTargets_eq, List.length_map] at h
  rw [selectTargets_eq]
  exact List.mem_map_of_mem (firstBy_short byNoradCatId h ho)

/-- A select has every object it may take up to the largest that it took. -/
theorem mem_selectTargets_of_le {db : Database}
    (hy : y ∈ selectTargets db.objects bound excludeIds limit) (hxy : x ≤ y) (hx : Undecayed db x)
    (hb : ∀ c ∈ bound, c < x) (he : x ∉ excludeIds) :
    x ∈ selectTargets db.objects bound excludeIds limit := by
  obtain ⟨o, ho, rfl⟩ := mem_targetRows hx hb he
  rw [selectTargets_eq] at hy ⊢
  obtain ⟨o', ho', rfl⟩ := List.mem_map.1 hy
  rcases Int.lt_or_eq_of_le hxy with hlt | heq
  · exact List.mem_map_of_mem (firstBy_lower byNoradCatId ho' ho (Int.not_le.2 hlt))
  · rw [heq]
    exact List.mem_map_of_mem ho'

end

/-- Without a wrap the batch is the primary select, and it is full. -/
theorem nextGpRotationBatch_full {n : Nat} {excludeIds : List Int} {db : Database}
    (h : ¬ (primaryTargets n excludeIds db).length < n) :
    nextGpRotationBatch n excludeIds db = primaryTargets n excludeIds db := by
  simp only [nextGpRotationBatch, if_neg h]

/-- With a wrap the rest of the batch comes from the start of the catalogue. -/
theorem nextGpRotationBatch_wrap {n : Nat} {excludeIds : List Int} {db : Database}
    (h : (primaryTargets n excludeIds db).length < n) :
    nextGpRotationBatch n excludeIds db = primaryTargets n excludeIds db ++
      selectTargets db.objects none excludeIds (n - (primaryTargets n excludeIds db).length) := by
  simp only [nextGpRotationBatch, if_pos h]

/-- The hot slice never fills the batch. -/
theorem topGpHotTargets_length (n : Nat) (db : Database) : (topGpHotTargets n db).length ≤ n := by
  rw [topGpHotTargets, List.length_map, firstBy_length]
  exact Nat.min_le_left _ _

end Sql

/-! ## What a run does to the cursor -/

/-- The cursor that a batch leaves. -/
def cursorAfter (cursor : Option Int) (rotationTargetIds : List Int) : Option Int :=
  rotationTargetIds.getLast?.or cursor

/-- The cursor is moved to the last of the rotation targets, if there are any. -/
def Advanced (rotationTargetIds : List Int) (db db' : Database) : Prop :=
  match rotationTargetIds.getLast? with
  | none => db' = db
  | some newCursor => ∃ now, Sql.advanceGpRotationCursor newCursor now db = .ok db'

/-- Moving the cursor leaves the cursor that belongs to the batch. -/
theorem Advanced.rotationCursor {rot : List Int} {db db' : Database} (h : Advanced rot db db') :
    db'.rotationCursor = cursorAfter db.rotationCursor rot := by
  unfold Advanced at h
  unfold cursorAfter
  cases hlast : rot.getLast? with
  | none =>
    rw [hlast] at h
    rw [h]
    rfl
  | some c =>
    rw [hlast] at h
    obtain ⟨now, hdb⟩ := h
    exact Sql.rotationCursor_advance hdb

/-- The last step of `process_response` moves the cursor when it goes through, and writes nothing
otherwise. -/
theorem advanceCursor_cases (rot : List Int) (s : Session) :
    ((GpPoller.advanceCursor rot s).1 = .ok () ∧
      Advanced rot s.db (GpPoller.advanceCursor rot s).2.db) ∨
    ((GpPoller.advanceCursor rot s).1 ≠ .ok () ∧
      (GpPoller.advanceCursor rot s).2.db = s.db) := by
  unfold GpPoller.advanceCursor Advanced
  cases hl : rot.getLast? with
  | none => exact .inl ⟨rfl, rfl⟩
  | some c =>
    dsimp only
    unfold DbWriter.advanceGpRotationCursor
    rcases transaction_cases (fun call db =>
        ((), ·) <$> Sql.advanceGpRotationCursor c call.now db) s
      with ⟨-, a, db, hb, h⟩ | ⟨-, e, h⟩ | ⟨-, h⟩ <;> rw [h]
    · exact .inl ⟨rfl, s.call.now, map_unit_ok.1 hb⟩
    · exact .inr ⟨by simp, rfl⟩
    · exact .inr ⟨by simp, rfl⟩

/-- `process_response` works off its records and then moves the cursor. It moves it when it reaches
its end, and only then; `Q` is whatever the statements of the records respect. -/
theorem processResponse_cases {X : Externals} {Q : Database → Database → Prop} [Std.Refl Q]
    [IsTrans Database Q] (hQ : RecordFrame X Q) (rot : List Int) (body : String) (s : Session) :
    ((GpPoller.processResponse X rot body s).1 = .ok () ∧ ∃ mid, Q s.db mid ∧
      Advanced rot mid (GpPoller.processResponse X rot body s).2.db) ∨
    ((GpPoller.processResponse X rot body s).1 ≠ .ok () ∧
      Q s.db (GpPoller.processResponse X rot body s).2.db) := by
  unfold GpPoller.processResponse
  cases parseGpResponse X body with
  | error e => exact .inr ⟨by simp [Proc.bind_run], refl_of Q s.db⟩
  | ok records =>
    rw [Proc.ofExcept_ok, pure_bind, Proc.bind_ok (Proc.modify_run _ s)]
    have hloop := (processRecords_onDb hQ records { s with counts := {} }).db
    rw [Proc.bind_run]
    rcases hp : Proc.forEach (GpPoller.processRecord X) records { s with counts := {} }
      with ⟨_ | e | _, s'⟩ <;> rw [hp] at hloop <;> dsimp only at hloop ⊢
    · rcases advanceCursor_cases rot s' with ⟨hok, hmoved⟩ | ⟨hne, hdb⟩
      · exact .inl ⟨hok, s'.db, hloop, hmoved⟩
      · exact .inr ⟨hne, hdb ▸ hloop⟩
    · exact .inr ⟨by simp, hloop⟩
    · exact .inr ⟨by simp, hloop⟩

/-! ## Runs -/

/-- One GP run of `main`: the tables at the select of the hot targets and at the select of the
rotation targets, and the process that then runs the poller. -/
structure GpRun where
  atHot : Database
  atRotation : Database
  start : Session

namespace GpRun

/-- What `top_gp_hot_targets` returned. -/
def hotTargets (r : GpRun) : List Int := Sql.topGpHotTargets kGpMaxHotSlots r.atHot

/-- The room that the hot slice leaves. -/
def batchSize (r : GpRun) : Nat := kGpBatchSize - r.hotTargets.length

/-- What `next_gp_rotation_batch` returned, with the hot targets left out. -/
def rotationTargets (r : GpRun) : List Int :=
  Sql.nextGpRotationBatch r.batchSize r.hotTargets r.atRotation

/-- The ids of the request. -/
def requested (r : GpRun) : List Int := r.hotTargets ++ r.rotationTargets

/-- The primary select came back short. -/
def Wraps (r : GpRun) : Prop :=
  (Sql.primaryTargets r.batchSize r.hotTargets r.atRotation).length < r.batchSize

/-- Decided by comparing lengths. -/
instance (r : GpRun) : Decidable r.Wraps := inferInstanceAs (Decidable (_ < _))

/-- The poller that `main` makes of the targets. -/
def poller (X : Externals) (r : GpRun) : Poller := gpPoller X r.hotTargets r.rotationTargets

/-- The process when the run is over. -/
def finish (X : Externals) (r : GpRun) : Session := ((r.poller X).run r.start).2

/-- `process_response` was called and reached its end. -/
def Succeeds (X : Externals) (r : GpRun) : Prop :=
  ∃ body s, (r.poller X).fetch r.start = (.ok (some body), s) ∧
    ((r.poller X).processResponse body s).1 = .ok ()

/-- Whether the run succeeds, as a computation. -/
def succeeds (X : Externals) (r : GpRun) : Bool :=
  match (r.poller X).fetch r.start with
  | (.ok (some body), s) => ((r.poller X).processResponse body s).1 = .ok ()
  | _ => false

/-- The computation says whether the run succeeds. -/
theorem succeeds_iff {X : Externals} {r : GpRun} : r.succeeds X = true ↔ r.Succeeds X := by
  rw [succeeds, Succeeds]
  rcases (r.poller X).fetch r.start with ⟨(_ | body) | e | _, s⟩ <;> simp

/-- A run leaves the catalogue alone. -/
theorem finish_objects (X : Externals) (r : GpRun) :
    (r.finish X).db.objects = r.start.db.objects :=
  (run_onRun (p := r.poller X) (gp_processResponse_within X _) r.start).db.objects

/-- A run that succeeds moves the cursor in the end, and another one does not; `Q` is whatever the
statements of its records respect. -/
theorem finish_cases {X : Externals} {Q : Database → Database → Prop} [Std.Refl Q]
    [IsTrans Database Q] (hQ : RecordFrame X Q) (r : GpRun) :
    (r.Succeeds X ∧ ∃ mid, Q r.start.db mid ∧
      Advanced r.rotationTargets mid (r.finish X).db) ∨
    (¬ r.Succeeds X ∧ Q r.start.db (r.finish X).db) := by
  have hf : ((r.poller X).fetch r.start).2.db = r.start.db :=
    (fetch_onRun (r.poller X) (Q := KeepsDb id) r.start).1
  unfold finish Succeeds Poller.run
  rw [Proc.bind_run]
  rcases hfe : (r.poller X).fetch r.start with ⟨b | e | _, s⟩ <;> rw [hfe] at hf <;>
    dsimp only at hf ⊢ <;> rw [← hf]
  · cases b with
    | none => exact .inr ⟨by simp, refl_of Q _⟩
    | some body =>
      dsimp only
      rw [handle_db]
      rcases processResponse_cases hQ r.rotationTargets body s with ⟨hok, hmoved⟩ | ⟨hne, hdb⟩
      · exact .inl ⟨⟨body, s, rfl, hok⟩, hmoved⟩
      · refine .inr ⟨?_, hdb⟩
        rintro ⟨body', s', he, hok⟩
        cases he
        exact hne hok
  · exact .inr ⟨by simp, refl_of Q _⟩
  · exact .inr ⟨by simp, refl_of Q _⟩

/-- The cursor a run leaves. -/
theorem finish_cursor (X : Externals) (r : GpRun) :
    (r.Succeeds X ∧ (r.finish X).db.rotationCursor =
      cursorAfter r.start.db.rotationCursor r.rotationTargets) ∨
    (¬ r.Succeeds X ∧ (r.finish X).db.rotationCursor = r.start.db.rotationCursor) := by
  have hQ : RecordFrame X (KeepsDb Database.rotationCursor) := by
    refine ⟨fun call snap db id db' h => ?_, fun call n e p q db db' hc h => ?_⟩
    · obtain ⟨row, -, -, ha, rfl⟩ := Sql.insertSnapshot_ok.1 h
      rfl
    · obtain ⟨ha, rfl⟩ := Sql.insertEvent_ok.1 h
      rfl
  rcases r.finish_cases hQ with ⟨hs, mid, hkept, hmoved⟩ | ⟨hs, hkept⟩
  · refine .inl ⟨hs, hmoved.rotationCursor.trans ?_⟩
    rw [show mid.rotationCursor = r.start.db.rotationCursor from hkept]
  · exact .inr ⟨hs, hkept⟩

/-- The hot slice leaves room for the rotation. -/
theorem batchSize_pos (r : GpRun) : 0 < r.batchSize := by
  have h : r.hotTargets.length ≤ kGpMaxHotSlots := Sql.topGpHotTargets_length _ _
  unfold batchSize
  unfold kGpMaxHotSlots at h
  unfold kGpBatchSize
  omega

/-! ## A run is a visit -/

/-- A run as a visit of the sweep: one that does not succeed requests nothing. -/
def visit (X : Externals) (r : GpRun) : Visit Int where
  before := r.start.db.rotationCursor.getD (-1)
  after := (r.finish X).db.rotationCursor.getD (-1)
  eligible := {x | Undecayed r.atRotation x}
  requested := {x | r.Succeeds X ∧ x ∈ r.requested}
  wraps := r.Succeeds X ∧ r.Wraps

section
variable {r : GpRun} {x : Int}

/-- The primary select of a run that wraps has every object ahead of the cursor. -/
theorem mem_requested_of_wraps (hw : r.Wraps) (hx : Undecayed r.atRotation x)
    (hlt : r.atRotation.rotationCursor.getD (-1) < x) : x ∈ r.requested := by
  by_cases hhot : x ∈ r.hotTargets
  · exact List.mem_append_left _ hhot
  · have hp : x ∈ Sql.primaryTargets r.batchSize r.hotTargets r.atRotation :=
      Sql.mem_selectTargets_of_short hw hx (by rintro c ⟨⟩; exact hlt) hhot
    refine List.mem_append_right _ ?_
    unfold rotationTargets
    rw [Sql.nextGpRotationBatch_wrap hw]
    exact List.mem_append_left _ hp

/-- A run that does not wrap has every object from the cursor up to its last target. -/
theorem mem_requested_of_le (hw : ¬ r.Wraps) {last : Int}
    (hl : last ∈ r.rotationTargets) (hx : Undecayed r.atRotation x)
    (hlt : r.atRotation.rotationCursor.getD (-1) < x) (hle : x ≤ last) : x ∈ r.requested := by
  by_cases hhot : x ∈ r.hotTargets
  · exact List.mem_append_left _ hhot
  · unfold rotationTargets at hl
    rw [Sql.nextGpRotationBatch_full hw] at hl
    refine List.mem_append_right _ ?_
    unfold rotationTargets
    rw [Sql.nextGpRotationBatch_full hw]
    exact Sql.mem_selectTargets_of_le hl hle hx (by rintro c ⟨⟩; exact hlt) hhot

/-- The wraparound select has no lower bound: a run that wraps has every object up to its last
target, which is the last one of that select when it took any. -/
theorem mem_requested_of_wraps_le (hw : r.Wraps) (hx : Undecayed r.atRotation x)
    (hle : ∀ last ∈ r.rotationTargets.getLast?, x ≤ last) : x ∈ r.requested := by
  by_cases hhot : x ∈ r.hotTargets
  · exact List.mem_append_left _ hhot
  refine List.mem_append_right _ ?_
  unfold rotationTargets at hle ⊢
  rw [Sql.nextGpRotationBatch_wrap hw] at hle ⊢
  refine List.mem_append_right _ ?_
  have hb : ∀ c ∈ (none : Option Int), c < x := nofun
  rcases List.eq_nil_or_concat' (Sql.selectTargets r.atRotation.objects none r.hotTargets
    (r.batchSize - (Sql.primaryTargets r.batchSize r.hotTargets r.atRotation).length)) with
    hnil | ⟨init, last, hlast⟩
  · -- nothing was taken although there was room, so nothing was left to take
    refine Sql.mem_selectTargets_of_short ?_ hx hb hhot
    rw [hnil]
    exact Nat.sub_pos_of_lt hw
  · refine Sql.mem_selectTargets_of_le (y := last) ?_ (hle last ?_) hx hb hhot
    · rw [hlast]
      exact List.mem_append_right _ (.head _)
    · rw [hlast, ← List.append_assoc, List.getLast?_concat]
      rfl

/-- A full batch is not empty. -/
theorem exists_getLast (hw : ¬ r.Wraps) : ∃ last, r.rotationTargets.getLast? = some last := by
  have hne : r.rotationTargets ≠ [] := by
    unfold rotationTargets
    rw [Sql.nextGpRotationBatch_full hw]
    intro h
    refine hw ?_
    unfold Wraps
    rw [h]
    exact r.batchSize_pos
  exact ⟨_, List.getLast?_eq_getLast_of_ne_nil hne⟩

end

/-- A run that selects and starts at one cursor is a sound visit. -/
theorem visit_sound (X : Externals) (r : GpRun)
    (hc : r.atRotation.rotationCursor = r.start.db.rotationCursor) : (r.visit X).Sound := by
  rcases r.finish_cursor X with ⟨hs, hcur⟩ | ⟨hs, hcur⟩
  · constructor
    · intro x hx hlt hle
      change (r.start.db.rotationCursor.getD (-1)) < x at hlt
      change x ≤ (r.finish X).db.rotationCursor.getD (-1) ∨ _ at hle
      rw [← hc] at hlt
      refine ⟨hs, ?_⟩
      by_cases hw : r.Wraps
      · exact mem_requested_of_wraps hw hx hlt
      · obtain ⟨last, hlast⟩ := exists_getLast hw
        rw [hcur, cursorAfter, hlast, Option.some_or] at hle
        have hle' : x ≤ last := hle.resolve_right fun h => hw h.2
        exact mem_requested_of_le hw (List.mem_of_getLast? hlast) hx hlt hle'
    · rintro ⟨-, hw⟩ x hx hle
      change x ≤ (r.finish X).db.rotationCursor.getD (-1) at hle
      refine ⟨hs, mem_requested_of_wraps_le hw hx fun last hlast => ?_⟩
      rw [Option.mem_def] at hlast
      rwa [hcur, cursorAfter, hlast, Option.some_or] at hle
  · -- a run that does not succeed leaves the cursor and asks nothing of itself
    constructor
    · intro x _ hlt hle
      change (r.start.db.rotationCursor.getD (-1)) < x at hlt
      change x ≤ (r.finish X).db.rotationCursor.getD (-1) ∨ _ at hle
      rw [hcur] at hle
      rcases hle with hle | hle
      · exact absurd hle (Int.not_le.2 hlt)
      · exact absurd hle.1 hs
    · exact fun hw => absurd hw.1 hs

end GpRun

/-! ## Sequences of runs -/

/-- A sequence of runs from a cursor on: each run selects and starts at the cursor the run before it
left. Nothing else ties the tables of one run to those of the next. -/
def GpRuns (X : Externals) (cursor : Option Int) : List GpRun → Prop
  | [] => True
  | r :: rs => r.atRotation.rotationCursor = cursor ∧ r.start.db.rotationCursor = cursor ∧
      GpRuns X (r.finish X).db.rotationCursor rs

section
variable {X : Externals}

/-- The last part of a sequence of runs is one from the cursor it starts at. -/
theorem GpRuns.suffix {pre rs : List GpRun} {cursor : Option Int}
    (h : GpRuns X cursor (pre ++ rs)) : ∃ cursor', GpRuns X cursor' rs := by
  induction pre generalizing cursor with
  | nil => exact ⟨cursor, h⟩
  | cons _ _ ih => exact ih h.2.2

/-- The first part of a sequence of runs is one. -/
theorem GpRuns.prefix {rs post : List GpRun} {cursor : Option Int}
    (h : GpRuns X cursor (rs ++ post)) : GpRuns X cursor rs := by
  induction rs generalizing cursor with
  | nil => trivial
  | cons _ _ ih => exact ⟨h.1, h.2.1, ih h.2.2⟩

/-- Runs in a row are a chain of visits: each starts from the cursor that the one before left. -/
theorem GpRuns.chained {rs : List GpRun} {cursor : Option Int} (h : GpRuns X cursor rs) :
    Chained (cursor.getD (-1)) (rs.map (GpRun.visit X)) := by
  induction rs generalizing cursor with
  | nil => trivial
  | cons r rs ih =>
    have hstart : r.start.db.rotationCursor.getD (-1) = cursor.getD (-1) := by rw [h.2.1]
    exact ⟨hstart, ih h.2.2⟩

/-- Each of the visits is a sound one. -/
theorem GpRuns.sound {rs : List GpRun} {cursor : Option Int} (h : GpRuns X cursor rs) :
    ∀ v ∈ rs.map (GpRun.visit X), v.Sound := by
  induction rs generalizing cursor with
  | nil => exact List.forall_mem_nil _
  | cons r rs ih =>
    intro v hv
    rcases List.mem_cons.1 hv with rfl | hv
    · exact r.visit_sound X (h.1.trans h.2.1.symm)
    · exact ih h.2.2 v hv

/-- The rotation never skips an object: from a successful run that wraps to a later one, an object
that is undecayed all the time is requested by a successful run. -/
theorem rotation_never_skips {cursor : Option Int} {pre middle post : List GpRun}
    {first last : GpRun}
    (h : GpRuns X cursor (pre ++ (first :: (middle ++ [last]) ++ post)))
    (hfirst : first.Succeeds X) (hfw : first.Wraps) (hlast : last.Succeeds X) (hlw : last.Wraps)
    {x : Int} (hx : ∀ r ∈ first :: (middle ++ [last]), Undecayed r.atRotation x) :
    ∃ r ∈ first :: (middle ++ [last]), r.Succeeds X ∧ x ∈ r.requested := by
  obtain ⟨c, hs⟩ := h.suffix
  have hstretch : GpRuns X c (first :: (middle ++ [last])) := hs.prefix
  have hvisits : ∀ w ∈ first.visit X :: (middle ++ [last]).map (GpRun.visit X),
      ∃ r ∈ first :: (middle ++ [last]), r.visit X = w := fun w hw =>
    List.mem_map.1 (show w ∈ (first :: (middle ++ [last])).map (GpRun.visit X) from hw)
  have hcov : ∃ w ∈ first.visit X :: (middle ++ [last]).map (GpRun.visit X), x ∈ w.requested := by
    refine covered_between_wraps hstretch.2.2.chained hstretch.sound (fun w hw => ?_)
      ⟨hfirst, hfw⟩ ⟨last.visit X, ?_, hlast, hlw⟩
    · obtain ⟨r, hr, rfl⟩ := hvisits w hw
      exact hx r hr
    · exact List.mem_map_of_mem (List.mem_append_right _ (.head _))
  obtain ⟨w, hw, hwr⟩ := hcov
  obtain ⟨r, hr, rfl⟩ := hvisits w hw
  exact ⟨r, hr, hwr⟩

namespace RotationFixture

/-- An undecayed object. -/
def object (hitCount : Int) : ObjectRow where
  noradCatId := 5
  objectName := none
  objectId := none
  objectType := none
  countryCode := none
  launchDate := none
  site := none
  rcsSize := none
  decayDate := none
  updatedAt := 0
  hitCount
  featured := false

/-- The number of the object is one that the column takes. -/
theorem object_ids (hitCount : Int) :
    ∀ k ∈ (Table.single (object hitCount) : Objects).keys, IsInt32 k := by
  intro k hk
  rw [List.mem_singleton.1 hk]
  exact show IsInt32 5 by decide

/-- The catalogue of one object, viewed some times. -/
def catalogue (hitCount : Int) : Database :=
  .ofObjects (.single (object hitCount)) (object_ids hitCount)

/-- Space-Track answers every query with an empty list. -/
def externals : Externals := .ofTables [("[]", .arr [])] [] []

/-- Undecayed objects that nobody has viewed, numbered from 1 on. -/
def numbered (n : Nat) : List ObjectRow :=
  (List.range n).map fun (k : Nat) => { object 0 with noradCatId := (k : Int) + 1 }

/-- The numbers go up to the length of the list. -/
theorem mem_numbered {n : Nat} {y : Int} :
    (∃ o ∈ numbered n, o.noradCatId = y ∧ o.decayDate = none) ↔ 1 ≤ y ∧ y ≤ n := by
  constructor
  · rintro ⟨o, ho, rfl, -⟩
    obtain ⟨k, hk, rfl⟩ := List.mem_map.1 ho
    have hlt := List.mem_range.1 hk
    show 1 ≤ (k : Int) + 1 ∧ (k : Int) + 1 ≤ n
    omega
  · rintro ⟨hlow, hhigh⟩
    refine ⟨_, List.mem_map_of_mem (List.mem_range.2 (by omega : (y - 1).toNat < n)), ?_, rfl⟩
    show ((y - 1).toNat : Int) + 1 = y
    omega

/-- No two objects have one number. -/
theorem numbered_nodup (n : Nat) : ((numbered n).map (·.noradCatId)).Nodup := by
  rw [numbered, List.map_map]
  refine List.nodup_range.map fun a b h => ?_
  have hkey : (a : Int) + 1 = (b : Int) + 1 := h
  omega

/-- The numbers of a small catalogue are `INTEGER`s. -/
theorem numbered_isInt32 {n : Nat} (hn : n < 2 ^ 31) :
    ∀ k ∈ (numbered n).map (·.noradCatId), IsInt32 k := by
  intro k hk
  obtain ⟨o, ho, rfl⟩ := List.mem_map.1 hk
  obtain ⟨j, hj, rfl⟩ := List.mem_map.1 ho
  have hlt := List.mem_range.1 hj
  show IsInt32 ((j : Int) + 1)
  unfold IsInt32
  omega

/-- The catalogue of these objects. -/
def catalogueOf (n : Nat) (hn : n < 2 ^ 31) : Database :=
  .ofObjects ⟨numbered n, numbered_nodup n⟩ (numbered_isInt32 hn)

/-- A catalogue of 600 objects, which one run does not get around. -/
def crowd : Database := catalogueOf 600 (by decide)

/-- A run on these tables. -/
def runOn (db : Database) : GpRun := ⟨db, db, .start db (calmEnv 0 "[]")⟩

/-- The first run takes the objects up to 500. -/
def first : GpRun := runOn crowd

/-- The second one takes the last 100 and goes on from the start of the catalogue up to 400. -/
def second : GpRun := runOn (first.finish externals).db

/-- The third one takes the objects from 401 on and then again those up to 300. -/
def third : GpRun := runOn (second.finish externals).db

example : second.atRotation.rotationCursor = some 500 ∧ ¬ first.Wraps ∧
    third.atRotation.rotationCursor = some 400 ∧ 450 ∉ second.requested := by
  decide +kernel

/-- The cursor of a run on some tables is theirs, and the next run starts where it ends. -/
theorem runOn_cons {db : Database} {rs : List GpRun}
    (h : GpRuns externals ((runOn db).finish externals).db.rotationCursor rs) :
    GpRuns externals db.rotationCursor (runOn db :: rs) :=
  ⟨rfl, rfl, h⟩

/-- The three runs are made in a row, on the crowd. -/
theorem runs : GpRuns externals crowd.rotationCursor [first, second, third] :=
  runOn_cons (runOn_cons (runOn_cons trivial))

/-- All of them succeed. -/
theorem succeed : ∀ r ∈ [first, second, third], r.succeeds externals = true := by decide +kernel

/-- The second and the third come to the end of the catalogue and begin again. -/
theorem wrap : second.Wraps ∧ third.Wraps := by decide +kernel

/-- What is undecayed in tables with this catalogue. -/
theorem undecayed_of {n : Nat} {hn : n < 2 ^ 31} {db : Database}
    (hdb : db.objects = (catalogueOf n hn).objects) (y : Int) :
    Undecayed db y ↔ 1 ≤ y ∧ y ≤ n := by
  unfold Undecayed
  rw [hdb]
  exact mem_numbered

/-- The run on some tables selects from their catalogue, and leaves it. -/
theorem runOn_objects {db : Database} (hdb : db.objects = crowd.objects) :
    (runOn db).atRotation.objects = crowd.objects ∧
      ((runOn db).finish externals).db.objects = crowd.objects :=
  ⟨hdb, ((runOn db).finish_objects externals).trans hdb⟩

/-- The undecayed objects are the same for all runs. -/
theorem undecayed : ∀ r ∈ [first, second, third], ∀ y, Undecayed r.atRotation y ↔
    1 ≤ y ∧ y ≤ 600 := by
  have hcrowd : ∀ r : GpRun, r.atRotation.objects = crowd.objects → ∀ y,
      Undecayed r.atRotation y ↔ 1 ≤ y ∧ y ≤ 600 := fun r hr => undecayed_of (n := 600) hr
  have hfirst := @runOn_objects crowd rfl
  have hsecond := runOn_objects hfirst.2
  have hthird := runOn_objects hsecond.2
  unfold third second first
  exact List.forall_mem_cons.2 ⟨hcrowd _ hfirst.1, List.forall_mem_cons.2
    ⟨hcrowd _ hsecond.1, List.forall_mem_singleton.2 (hcrowd _ hthird.1)⟩⟩

end RotationFixture

open RotationFixture in
/-- Object 450 is behind the first two batches, and is requested when the third comes around. -/
theorem rotation_never_skips_two_runs :
    ∃ r ∈ [second, third], r.Succeeds externals ∧ (450 : Int) ∈ r.requested :=
  @rotation_never_skips externals crowd.rotationCursor [first] [] [] second third runs
    (GpRun.succeeds_iff.1 (succeed second (.tail _ (.head _)))) wrap.1
    (GpRun.succeeds_iff.1 (succeed third (.tail _ (.tail _ (.head _))))) wrap.2 450
    fun r hr => (undecayed r (.tail _ hr) 450).2 (by decide)

end

/-! ## The runs of `main` -/

end VitaleBackend
