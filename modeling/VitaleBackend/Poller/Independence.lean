import VitaleBackend.Lib.Reordering
import VitaleBackend.Poller.Replay

/-!
# The records of a response in another order

A record reads the snapshots of its own object and whether its own `gp_id` is in use, and adds to
these alone. The turns of two records with different numbers and different `gp_id`s therefore
commute, also when the tables refuse one of them, so that a response may list its records in any
order (`processResponse_perm`).
-/

namespace VitaleBackend

open Process Relational Reordering

/-! ## What becomes of a record -/

/-- What the turn of a record counts. -/
inductive RecordOutcome where
  | inserted | unchanged | error
  deriving DecidableEq

/-- The counters with one more record of this kind. -/
def Counts.count (counts : Counts) : RecordOutcome → Counts
  | .inserted => { counts with inserted := counts.inserted + 1 }
  | .unchanged => { counts with unchanged := counts.unchanged + 1 }
  | .error => { counts with error := counts.error + 1 }

/-- The counters do not tell the order of two records. -/
theorem Counts.count_comm (counts : Counts) (o o' : RecordOutcome) :
    (counts.count o).count o' = (counts.count o').count o := by
  cases o <;> cases o' <;> rfl

namespace GpContent

/-- Decided by converting the snapshot and looking through the tables. -/
instance (X : Externals) (c : GpContent) (r : GpRecord) : Decidable (∃ row, c.Takes X r row) :=
  decidable_of_iff ((SnapshotRow.ofSnapshot X 0 0 r.snapshot).toOption.isSome = true ∧
      r.snapshot.gpId ∉ c.snapshots.map (·.gpId) ∧ r.object.noradCatId ∈ c.objects.keys) <| by
    constructor
    · rintro ⟨hrow, hfresh, hknown⟩
      obtain ⟨row, hrow⟩ := Option.isSome_iff_exists.1 hrow
      refine ⟨row, ?_, hfresh, hknown⟩
      cases h : SnapshotRow.ofSnapshot X 0 0 r.snapshot with
      | error e =>
        rw [h] at hrow
        cases hrow
      | ok row' =>
        rw [h] at hrow
        cases hrow
        rfl
    · rintro ⟨row, hrow, hfresh, hknown⟩
      rw [hrow]
      exact ⟨rfl, hfresh, hknown⟩

/-- What becomes of a record when no call fails. -/
def outcome (X : Externals) (c : GpContent) (r : GpRecord) : RecordOutcome :=
  if (c.last X r.object.noradCatId).any (·.gpId = r.snapshot.gpId) then .unchanged
  else if ∃ row, c.Takes X r row then .inserted
  else .error

/-- The turn of a record, on the content and the counters. -/
def turn (X : Externals) (p : GpContent × Counts) (r : GpRecord) : GpContent × Counts :=
  (p.1.store X r, p.2.count (p.1.outcome X r))

/-! ## Contents that differ in the order of their rows -/

/-- Two contents have the same rows, and those of each object in the same order. -/
structure SameRows (c c' : GpContent) : Prop where
  objects : c'.objects = c.objects
  histories : ∀ n, c'.snapshots.filter (·.noradCatId = n) = c.snapshots.filter (·.noradCatId = n)
  snapshots : c'.snapshots.Perm c.snapshots
  events : c'.events.Perm c.events

/-- A content has the same rows as itself. -/
theorem SameRows.refl (c : GpContent) : c.SameRows c := ⟨rfl, fun _ => rfl, .refl _, .refl _⟩

/-- Contents with the same rows as a third have the same rows. -/
theorem SameRows.trans {c c' c'' : GpContent} (h : c.SameRows c') (h' : c'.SameRows c'') :
    c.SameRows c'' where
  objects := h'.objects.trans h.objects
  histories n := (h'.histories n).trans (h.histories n)
  snapshots := h'.snapshots.trans h.snapshots
  events := h'.events.trans h.events

section
variable {X : Externals} {c c' : GpContent} {r r' : GpRecord} {row row' : SnapshotRow}

/-- The last snapshot of an object is that of its own rows. -/
theorem last_congr {n : Int} (ho : c'.objects = c.objects)
    (hn : c'.snapshots.filter (·.noradCatId = n) = c.snapshots.filter (·.noradCatId = n)) :
    c'.last X n = c.last X n := by
  rw [last, last, Sql.selectLast, Sql.selectLast, Sql.lastSnapshotRow, Sql.lastSnapshotRow, ho, hn]

/-- In contents with the same rows an object has the same last snapshot. -/
theorem SameRows.last (h : c.SameRows c') (n : Int) : c'.last X n = c.last X n :=
  last_congr h.objects (h.histories n)

/-- In contents with the same rows a record fires the same events. -/
theorem SameRows.fired (h : c.SameRows c') (r : GpRecord) : c'.fired X r = c.fired X r := by
  rw [GpContent.fired, GpContent.fired, h.last]

/-- Contents with the same rows both take a snapshot, or neither does. -/
theorem SameRows.takes_iff (h : c.SameRows c') : c'.Takes X r row ↔ c.Takes X r row := by
  have hgp := (h.snapshots.map (·.gpId)).mem_iff (a := r.snapshot.gpId)
  constructor
  · intro ht
    exact ⟨ht.columns, fun hmem => ht.fresh (hgp.2 hmem), h.objects ▸ ht.known⟩
  · intro ht
    exact ⟨ht.columns, fun hmem => ht.fresh (hgp.1 hmem), h.objects.symm ▸ ht.known⟩

/-- In contents with the same rows a record has the same outcome. -/
theorem SameRows.outcome (h : c.SameRows c') (r : GpRecord) : c'.outcome X r = c.outcome X r := by
  unfold GpContent.outcome
  simp only [h.last, h.takes_iff]

/-- Adding a row for a record keeps contents alike. -/
theorem SameRows.add (h : c.SameRows c') (r : GpRecord) (row : SnapshotRow) :
    (c.add X r row).SameRows (c'.add X r row) where
  objects := h.objects
  histories n := by
    show (c'.snapshots ++ [row]).filter _ = (c.snapshots ++ [row]).filter _
    rw [List.filter_append, List.filter_append, h.histories]
  snapshots := h.snapshots.append_right _
  events := by
    show (c'.events ++ c'.fired X r).Perm (c.events ++ c.fired X r)
    rw [h.fired]
    exact h.events.append_right _

/-- A record is stored with the same result, up to the order of the rows. -/
theorem SameRows.store (h : c.SameRows c') (r : GpRecord) :
    (c.store X r).SameRows (c'.store X r) := by
  by_cases ht : ∃ row, c.Takes X r row
  · obtain ⟨row, ht⟩ := ht
    rw [store_of_takes ht, store_of_takes (h.takes_iff.2 ht)]
    exact h.add r row
  · rw [not_exists] at ht
    rw [store_of_not_takes ht, store_of_not_takes fun row => mt h.takes_iff.1 (ht row)]
    exact h

/-! ## Independent records -/

/-- Two records of different objects, with different `gp_id`s. -/
structure Independent (r r' : GpRecord) : Prop where
  noradCatId : r.object.noradCatId ≠ r'.object.noradCatId
  gpId : r.snapshot.gpId ≠ r'.snapshot.gpId

/-- Independence does not depend on which record comes first. -/
theorem Independent.symm (h : Independent r r') : Independent r' r :=
  ⟨h.noradCatId.symm, h.gpId.symm⟩

/-- The row of a record that the tables take has its numbers. -/
theorem Takes.row_ids (h : c.Takes X r row) :
    row.noradCatId = r.object.noradCatId ∧ row.gpId = r.snapshot.gpId := by
  obtain ⟨-, hn, hg⟩ := SnapshotRow.ofSnapshot_ok h.columns
  exact ⟨hn.trans r.noradCatId_eq, hg⟩

/-- A record of another object leaves the last snapshot of an object alone. -/
theorem last_add (hi : Independent r r') (ht : c.Takes X r' row') :
    (c.add X r' row').last X r.object.noradCatId = c.last X r.object.noradCatId := by
  refine last_congr rfl ?_
  have hne : row'.noradCatId ≠ r.object.noradCatId := ht.row_ids.1 ▸ hi.noradCatId.symm
  show (c.snapshots ++ [row']).filter _ = _
  rw [List.filter_append, List.filter_singleton, decide_eq_false hne, Bool.cond_false,
    List.append_nil]

/-- An independent record that is taken does not decide whether another one is taken: it brings
another `gp_id`, and no object. -/
theorem takes_add_iff (hi : Independent r r') (ht : c.Takes X r' row') :
    (c.add X r' row').Takes X r row ↔ c.Takes X r row := by
  have hmem : r.snapshot.gpId ∈ (c.add X r' row').snapshots.map (·.gpId) ↔
      r.snapshot.gpId ∈ c.snapshots.map (·.gpId) := by
    have hne : r.snapshot.gpId ≠ row'.gpId := ht.row_ids.2 ▸ hi.gpId
    show _ ∈ (c.snapshots ++ [row']).map (·.gpId) ↔ _
    rw [List.map_append, List.mem_append, List.map_singleton, List.mem_singleton, or_iff_left hne]
  constructor
  · intro h
    exact ⟨h.columns, fun hg => h.fresh (hmem.2 hg), h.known⟩
  · intro h
    exact ⟨h.columns, fun hg => h.fresh (hmem.1 hg), h.known⟩

/-- It does not decide which events fire either. -/
theorem fired_add (hi : Independent r r') (ht : c.Takes X r' row') :
    (c.add X r' row').fired X r = c.fired X r := by
  rw [fired, fired, last_add hi ht]

/-- A record does not change what becomes of one that is independent of it. -/
theorem outcome_store (hi : Independent r r') : (c.store X r').outcome X r = c.outcome X r := by
  by_cases ht : ∃ row', c.Takes X r' row'
  · obtain ⟨row', ht⟩ := ht
    rw [store_of_takes ht]
    unfold outcome
    simp only [last_add hi ht, takes_add_iff hi ht]
  · rw [store_of_not_takes (not_exists.1 ht)]

/-- Two rows may be added in either order. -/
theorem add_add (hi : Independent r r') (ht : c.Takes X r row) (ht' : c.Takes X r' row') :
    ((c.add X r row).add X r' row').SameRows ((c.add X r' row').add X r row) where
  objects := rfl
  histories n := by
    show ((c.snapshots ++ [row']) ++ [row]).filter _ = ((c.snapshots ++ [row]) ++ [row']).filter _
    have hne : ¬ (row.noradCatId = n ∧ row'.noradCatId = n) := by
      rintro ⟨h, h'⟩
      exact hi.noradCatId (by rw [← ht.row_ids.1, ← ht'.row_ids.1, h, h'])
    -- at most one of the two rows is in the history
    by_cases h : row.noradCatId = n <;> by_cases h' : row'.noradCatId = n
    · exact absurd ⟨h, h'⟩ hne
    all_goals simp [List.filter_append, h, h']
  snapshots := by
    show ((c.snapshots ++ [row']) ++ [row]).Perm ((c.snapshots ++ [row]) ++ [row'])
    rw [List.append_assoc, List.append_assoc]
    exact (List.Perm.swap row row' []).append_left _
  events := by
    show ((c.events ++ c.fired X r') ++ (c.add X r' row').fired X r).Perm
      ((c.events ++ c.fired X r) ++ (c.add X r row).fired X r')
    rw [fired_add hi ht', fired_add hi.symm ht, List.append_assoc, List.append_assoc]
    exact List.perm_append_comm.append_left _

/-- The records may be stored in either order. -/
theorem store_store (hi : Independent r r') (c : GpContent) :
    ((c.store X r).store X r').SameRows ((c.store X r').store X r) := by
  by_cases ht : ∃ row, c.Takes X r row <;> by_cases ht' : ∃ row', c.Takes X r' row'
  · obtain ⟨row, ht⟩ := ht
    obtain ⟨row', ht'⟩ := ht'
    rw [store_of_takes ht, store_of_takes ht', store_of_takes ((takes_add_iff hi.symm ht).2 ht'),
      store_of_takes ((takes_add_iff hi ht').2 ht)]
    exact add_add hi ht ht'
  · obtain ⟨row, ht⟩ := ht
    rw [not_exists] at ht'
    rw [store_of_takes ht, store_of_not_takes ht', store_of_takes ht, store_of_not_takes]
    · exact .refl _
    · exact fun row' => mt (takes_add_iff hi.symm ht).1 (ht' row')
  · obtain ⟨row', ht'⟩ := ht'
    rw [not_exists] at ht
    rw [store_of_takes ht', store_of_not_takes ht, store_of_takes ht', store_of_not_takes]
    · exact .refl _
    · exact fun row => mt (takes_add_iff hi ht').1 (ht row)
  · rw [not_exists] at ht ht'
    rw [store_of_not_takes ht, store_of_not_takes ht', store_of_not_takes ht]
    exact .refl _

end

/-- The same rows and the same counters. -/
structure SameTurns (p p' : GpContent × Counts) : Prop where
  content : p.1.SameRows p'.1
  counts : p'.2 = p.2

/-- The same rows and counters as before, when nothing is done. -/
instance : Std.Refl SameTurns := ⟨fun p => ⟨.refl p.1, rfl⟩⟩

/-- The same of two things in a row. -/
instance : IsTrans (GpContent × Counts) SameTurns :=
  ⟨fun _ _ _ h h' => ⟨h.content.trans h'.content, h'.counts.trans h.counts⟩⟩

/-- Independence is symmetric, as permutations of records ask for. -/
instance : Std.Symm Independent := ⟨fun _ _ h => h.symm⟩

/-- The turns of independent records commute. -/
theorem turn_commuting (X : Externals) : Commuting SameTurns Independent (turn X) where
  congr {p p'} r h := by
    refine ⟨h.content.store r, ?_⟩
    show p'.2.count _ = p.2.count _
    rw [h.counts, h.content.outcome]
  swap p r r' hi := by
    refine ⟨store_store hi p.1, ?_⟩
    show (p.2.count (p.1.outcome X r')).count ((p.1.store X r').outcome X r) =
      (p.2.count (p.1.outcome X r)).count ((p.1.store X r).outcome X r')
    rw [outcome_store hi, outcome_store hi.symm, Counts.count_comm]

end GpContent

/-! ## The turns of a process -/

section
variable {X : Externals} {r : GpRecord} {s : Session}

/-- When no call fails, the inserts of a pair's events succeed, and count nothing. -/
theorem insertEvents_ok {n : Int} {p q : Nat} {events : List DetectedEvent} {s : Session}
    (hn : n ∈ s.db.objects.keys) (hp : p ∈ s.db.snapshots.map (·.id))
    (hq : q ∈ s.db.snapshots.map (·.id)) (hcodes : ∀ e ∈ events, e.eventTypeCode ∈ eventTypeCodes)
    (hc : Calm s.env) :
    ∃ s', GpPoller.insertEvents n p q events s = (.ok (), s') ∧ s'.counts = s.counts := by
  induction events generalizing s with
  | nil => exact ⟨s, rfl, rfl⟩
  | cons e events ih =>
    have ha : s.db.EventAllowed (Sql.eventRow s.call n e (some p) (some q) s.db) :=
      ⟨hn, hcodes e (.head _), fun i hi => Option.mem_some.1 hi ▸ hp,
        fun i hi => Option.mem_some.1 hi ▸ hq⟩
    have hbody : ((), ·) <$> Sql.insertEvent s.call n e (some p) (some q) s.db =
        .ok ((), s.db.addEvent _ ha) := map_unit_ok.2 (Sql.insertEvent_ok.2 ⟨ha, rfl⟩)
    obtain ⟨s', hs', hcounts⟩ := @ih { s.next with db := s.db.addEvent _ ha } hn hp hq
      (fun e' he' => hcodes e' (.tail _ he')) hc
    refine ⟨s', ?_, hcounts⟩
    unfold GpPoller.insertEvents DbWriter.insertEvent at hs' ⊢
    rw [Proc.forEach_cons, Proc.bind_ok (transaction_ok (hc _) hbody), hs']

/-- The turn of a record that is stored. -/
theorem processRecord_stores {row : SnapshotRow} (h : Stores X r s row) (hc : Calm s.env) :
    (GpPoller.processRecord X r s).2.counts = s.counts.count .inserted := by
  have hpair : ∃ s', GpPoller.recordPair r (Sql.getLastSnapshot X r.object.noradCatId s.db) row.id
      h.committed = (.ok (), s') ∧ s'.counts = s.counts.count .inserted := by
    cases hlast : Sql.getLastSnapshot X r.object.noradCatId s.db with
    | none => exact ⟨h.committed, rfl, rfl⟩
    | some p =>
      refine @insertEvents_ok _ _ _ _ h.committed ?_ ?_ ?_ (snapshotEvents_codes p r.snapshot) hc
      · show r.object.noradCatId ∈ s.db.objects.keys
        rw [← r.noradCatId_eq, ← (SnapshotRow.ofSnapshot_ok h.columns).2.1]
        exact h.allowed.2.2
      · show p.id ∈ (s.db.snapshots ++ [row]).map (·.id)
        rw [List.map_append]
        exact List.mem_append_left _ (getLastSnapshot_id hlast)
      · exact List.mem_map_of_mem (List.mem_append_right _ (.head _))
  obtain ⟨s', hs', hcounts⟩ := hpair
  rw [GpPoller.processRecord, Proc.attempt_run, storeRecord_run h, hs']
  exact hcounts

/-- The turn of a record that repeats the last snapshot of its object. -/
theorem processRecord_repeats (hc : Calm s.env)
    (h : (Sql.getLastSnapshot X r.object.noradCatId s.db).any (·.gpId = r.snapshot.gpId) = true) :
    (GpPoller.processRecord X r s).2.counts = s.counts.count .unchanged := by
  have hrun : GpPoller.storeRecord X r s = GpPoller.countUnchanged s.next := by
    unfold GpPoller.storeRecord DbWriter.getLastSnapshot
    rw [Proc.bind_ok (query_run _ (hc _)), if_pos h]
  rw [GpPoller.processRecord, Proc.attempt_run, hrun]
  rfl

/-- The turn of a record that the tables refuse. -/
theorem processRecord_refused (hc : Calm s.env)
    (h : ¬ (Sql.getLastSnapshot X r.object.noradCatId s.db).any (·.gpId = r.snapshot.gpId) = true)
    (hno : ∀ row, ¬ Stores X r s row) :
    (GpPoller.processRecord X r s).2.counts = s.counts.count .error := by
  have hinsert : ∃ e, Sql.insertSnapshot X s.next.call r.snapshot s.next.db = .error e := by
    cases hi : Sql.insertSnapshot X s.next.call r.snapshot s.next.db with
    | error e => exact ⟨e, rfl⟩
    | ok a =>
      obtain ⟨row, hrow, -, hal, -⟩ := Sql.insertSnapshot_ok.1 hi
      exact absurd ⟨hc _, Bool.eq_false_iff.2 h, hc _, hrow, hal⟩ (hno row)
  obtain ⟨e, hinsert⟩ := hinsert
  have hrun : GpPoller.storeRecord X r s = (.error e, s.next.next) := by
    unfold GpPoller.storeRecord DbWriter.getLastSnapshot DbWriter.insertSnapshot
    rw [Proc.bind_ok (query_run _ (hc _)), if_neg h]
    exact Proc.bind_error (transaction_error (s := s.next) (hc _) hinsert)
  rw [GpPoller.processRecord, Proc.attempt_run, hrun]
  rfl

/-- When no call fails, a turn counts what becomes of its record. -/
theorem processRecord_counts (hc : Calm s.env) : (GpPoller.processRecord X r s).2.counts =
    s.counts.count (s.db.content.outcome X r) := by
  have hany : ((s.db.content.last X r.object.noradCatId).any (·.gpId = r.snapshot.gpId)) =
      (Sql.getLastSnapshot X r.object.noradCatId s.db).any (·.gpId = r.snapshot.gpId) := by
    rw [content_last, Option.any_map]
  rw [GpContent.outcome, hany]
  split
  · next h => exact processRecord_repeats hc h
  · next h =>
    split
    · next ht =>
      obtain ⟨row₀, ht⟩ := ht
      obtain ⟨row, hrow⟩ := ht.stores hc
      exact processRecord_stores hrow hc
    · next ht => exact processRecord_refused hc h fun row hrow => ht ⟨_, hrow.takes⟩

/-- The loop over the records refines their turns. -/
theorem processRecords_turns (X : Externals) (rs : List GpRecord) {s : Session} (hc : Calm s.env) :
    ∃ s', Proc.forEach (GpPoller.processRecord X) rs s = (.ok (), s') ∧ Calm s'.env ∧
      (s'.db.content, s'.counts) = rs.foldl (GpContent.turn X) (s.db.content, s.counts) ∧
      s'.db.pollerState = s.db.pollerState := by
  induction rs generalizing s with
  | nil => exact ⟨s, rfl, hc, rfl, rfl⟩
  | cons r rs ih =>
    obtain ⟨s₁, h₁, hc₁, hcont₁, hst₁⟩ := processRecord_refines X r hc
    obtain ⟨s₂, h₂, hc₂, hturns₂, hst₂⟩ := ih hc₁
    have hcounts₁ : s₁.counts = s.counts.count (s.db.content.outcome X r) := by
      rw [← processRecord_counts hc, h₁]
    refine ⟨s₂, ?_, hc₂, ?_, hst₂.trans hst₁⟩
    · rw [Proc.forEach_cons, Proc.bind_ok h₁, h₂]
    · rw [hturns₂, hcont₁, hcounts₁]
      rfl

end

/-! ## A whole response -/

/-- When no call fails, the last step of a response throws only for a target that the column of the
cursor does not take. -/
theorem advanceCursor_outcome (rot : List Int) {s : Session} (hc : Calm s.env) :
    (GpPoller.advanceCursor rot s).1 =
      if ∀ n ∈ rot.getLast?, IsInt32 n then .ok () else .error .db := by
  unfold GpPoller.advanceCursor
  cases rot.getLast? with
  | none => rfl
  | some n =>
    simp only [Option.mem_def, Option.some.injEq, forall_eq']
    unfold DbWriter.advanceGpRotationCursor
    split
    · next h32 =>
      obtain ⟨db', ha⟩ : ∃ db', Sql.advanceGpRotationCursor n s.call.now s.db = .ok db' :=
        ⟨_, Sql.advanceGpRotationCursor_ok.2 ⟨h32, rfl⟩⟩
      rw [transaction_ok (hc _) ((map_unit_ok (r := ((), db'))).2 ha)]
    · next h32 =>
      have ha : Sql.advanceGpRotationCursor n s.call.now s.db = .error .db := by
        unfold Sql.advanceGpRotationCursor integerColumn
        rw [if_neg h32]
        rfl
      rw [transaction_error (e := .db) (hc _) (by rw [ha]; rfl)]

/-- The counters of a response are final when the cursor is moved. -/
theorem advanceCursor_counts (rot : List Int) (s : Session) :
    (GpPoller.advanceCursor rot s).2.counts = s.counts := by
  unfold GpPoller.advanceCursor
  cases rot.getLast? with
  | none => rfl
  | some n => exact transaction_keeps id _ s

/-- How a response ends: the tables, generated ids and times aside, and the counters. -/
structure EndsAlike (p p' : Outcome Exn Unit × Session) : Prop where
  outcome : p'.1 = p.1
  content : p.2.db.content.SameRows p'.2.db.content
  cursor : p'.2.db.rotationCursor = p.2.db.rotationCursor
  counts : p'.2.counts = p.2.counts

/-- When no call fails, a response takes the turns of its records, from fresh counters. -/
theorem processResponse_turns {X : Externals} (rot : List Int) {body : String} {rs : List GpRecord}
    {s : Session} (hbody : parseGpResponse X body = .ok rs) (hc : Calm s.env) :
    (GpPoller.processResponse X rot body s).1 =
        (if ∀ n ∈ rot.getLast?, IsInt32 n then .ok () else .error .db) ∧
      ((GpPoller.processResponse X rot body s).2.db.content,
        (GpPoller.processResponse X rot body s).2.counts) =
          rs.foldl (GpContent.turn X) (s.db.content, {}) := by
  obtain ⟨s', hloop, hc', hturns, -⟩ := @processRecords_turns X rs { s with counts := {} } hc
  unfold GpPoller.processResponse
  rw [hbody, Proc.ofExcept_ok, pure_bind, Proc.bind_ok (Proc.modify_run _ s), Proc.bind_ok hloop]
  refine ⟨advanceCursor_outcome rot hc', ?_⟩
  rw [(advanceCursor_refines rot hc').1, advanceCursor_counts, hturns]

/-- A response may list its records in any order: with no number and no `gp_id` twice, it ends with
the same rows, the same events, the same cursor and the same counters. -/
theorem processResponse_perm {X : Externals} {rot : List Int} {body body' : String}
    {rs rs' : List GpRecord} {s s' : Session} (hbody : parseGpResponse X body = .ok rs)
    (hbody' : parseGpResponse X body' = .ok rs') (hperm : rs.Perm rs')
    (hnumbers : (rs.map (·.object.noradCatId)).Nodup) (hgpIds : (rs.map (·.snapshot.gpId)).Nodup)
    (hdb : s'.db = s.db) (hc : Calm s.env) (hc' : Calm s'.env) :
    EndsAlike (GpPoller.processResponse X rot body s)
    (GpPoller.processResponse X rot body' s') := by
  obtain ⟨hout, hturns⟩ := processResponse_turns rot hbody hc
  obtain ⟨hout', hturns'⟩ := processResponse_turns rot hbody' hc'
  have hindependent : rs.Pairwise GpContent.Independent :=
    (List.pairwise_map.1 hnumbers).imp₂ (fun _ _ hn hg => ⟨hn, hg⟩) (List.pairwise_map.1 hgpIds)
  have hsame := (GpContent.turn_commuting X).foldl_perm hperm hindependent (s.db.content, {})
  rw [← hturns, ← hdb, ← hturns'] at hsame
  have hcursor := congrArg Prod.snd (processResponse_refines X rot body hc)
  have hcursor' := congrArg Prod.snd (processResponse_refines X rot body' hc')
  refine ⟨hout'.trans hout.symm, hsame.content, ?_, hsame.counts⟩
  dsimp only at hcursor hcursor'
  rw [hcursor, hcursor', GpContent.respond_ok hbody, GpContent.respond_ok hbody', hdb]

namespace IndependenceFixture

/-- An entry of an object. -/
def entry (noradCatId gpId : String) : Json :=
  .obj [("NORAD_CAT_ID", .str noradCatId), ("GP_ID", .str gpId), ("EPOCH", .str "2026-08-22")]

/-- The record that is read from it. -/
def record (noradCatId gpId : Int) : GpRecord where
  object := { noradCatId, objectName := "", objectId := "", objectType := "", countryCode := "",
              launchDate := none, site := "", rcsSize := "", decayDate := none }
  snapshot := { noradCatId, gpId, epoch := "2026-08-22" }
  noradCatId_eq := rfl

/-- Both entries, in the order of their objects. -/
def response : String := "[\x7b\"NORAD_CAT_ID\":\"5\"\x7d,\x7b\"NORAD_CAT_ID\":\"6\"\x7d]"

/-- Both entries, in the other order. -/
def reversed : String := "[\x7b\"NORAD_CAT_ID\":\"6\"\x7d,\x7b\"NORAD_CAT_ID\":\"5\"\x7d]"

/-- An object of the catalogue and one that the foreign key refuses, in both orders. -/
def externals : Externals :=
  .ofTables
    [(response, .arr [entry "5" "100", entry "6" "101"]),
      (reversed, .arr [entry "6" "101", entry "5" "100"])] [] [("2026-08-22", 0)]

/-- A process that gets a body, on the catalogue of object 5. -/
def start (body : String) : Session := .start (RotationFixture.catalogue 0) (calmEnv 0 body)

end IndependenceFixture

open IndependenceFixture in
/-- Both orders end alike, with one record stored and one refused. -/
theorem processResponse_perm_reversed :
    EndsAlike (GpPoller.processResponse externals [5] response (start response))
      (GpPoller.processResponse externals [5] reversed (start reversed)) :=
  @processResponse_perm externals [5] response reversed [record 5 100, record 6 101]
    [record 6 101, record 5 100] (start response) (start reversed) (by decide +kernel)
    (by decide +kernel) (.swap _ _ _) (by decide) (by decide) rfl (calmEnv_calm 0 response)
    (calmEnv_calm 0 reversed)

end VitaleBackend
