import VitaleBackend.Poller.Upsert

/-!
# One GP record

What `process_response` does with one record, in any environment: `Stores` is when the snapshot is
committed, and then the events of the pair are committed one by one up to the first call that does
not go through (`storeRecord_stores`). Whatever happens later, no event is added for a snapshot that
is already there (`HistoryGrows`).
-/

namespace VitaleBackend

open Process Relational

/-! ## The columns of `snapshots` -/

/-- The id and the time of an insert end up in their own columns and nowhere else. -/
theorem SnapshotRow.ofSnapshot_eq (X : Externals) (id : Nat) (now : Timestamp) (snap : Snapshot) :
    SnapshotRow.ofSnapshot X id now snap =
      (fun row => { row with id, fetchedAt := now }) <$> SnapshotRow.ofSnapshot X 0 0 snap := by
  unfold SnapshotRow.ofSnapshot
  simp only [map_bind, map_pure]

/-- What each column of a row was converted from. -/
structure SnapshotRow.ConvertedFrom (X : Externals) (snap : Snapshot) (row : SnapshotRow) :
    Prop where
  noradCatId : integerColumn snap.noradCatId = .ok row.noradCatId
  gpId : integerColumn snap.gpId = .ok row.gpId
  epoch : columnInput X.timestampIn snap.epoch = .ok row.epoch
  eccentricity : numericColumn 13 8 snap.eccentricity = .ok row.eccentricity
  inclination : numericColumn 7 4 snap.inclination = .ok row.inclination
  raOfAscNode : numericColumn 7 4 snap.raOfAscNode = .ok row.raOfAscNode
  bstar : numericColumn 19 14 snap.bstar = .ok row.bstar
  semimajorAxis : row.semimajorAxis = snap.semimajorAxis

/-- The columns that the rules, the dedup or an order look at. -/
theorem SnapshotRow.ofSnapshot_converted {X : Externals} {id : Nat} {now : Timestamp}
    {snap : Snapshot} {row : SnapshotRow} (h : SnapshotRow.ofSnapshot X id now snap = .ok row) :
    row.id = id ∧ row.ConvertedFrom X snap := by
  simp only [SnapshotRow.ofSnapshot, bind_eq_ok] at h
  obtain ⟨_, hn, _, hg, _, ht, _, -, _, he, _, hi, _, hr, _, -, _, -, _, hb, _, -, _, -, _, -, _, -,
    _, -, _, -, _, -, ⟨⟩⟩ := h
  exact ⟨rfl, hn, hg, ht, he, hi, hr, hb, rfl⟩

/-- A stored element set keeps its numbers. -/
theorem SnapshotRow.ofSnapshot_ok {X : Externals} {id : Nat} {now : Timestamp} {snap : Snapshot}
    {row : SnapshotRow} (h : SnapshotRow.ofSnapshot X id now snap = .ok row) :
    row.id = id ∧ row.noradCatId = snap.noradCatId ∧ row.gpId = snap.gpId := by
  obtain ⟨hid, hrow⟩ := ofSnapshot_converted h
  exact ⟨hid, (integerColumn_ok.1 hrow.noradCatId).2.symm, (integerColumn_ok.1 hrow.gpId).2.symm⟩

/-! ## The last snapshot -/

/-- The last snapshot of an object is one of its rows. -/
theorem mem_of_lastSnapshotRow {rows : List SnapshotRow} {n : Int} {row : SnapshotRow}
    (h : Sql.lastSnapshotRow rows n = some row) : row ∈ rows ∧ row.noradCatId = n := by
  have hmem := mem_of_mem_firstBy Sql.latestFirst (List.mem_of_mem_head? h)
  simpa using List.mem_filter.1 hmem

section
variable {rows : List SnapshotRow} {n : Int} {m row : SnapshotRow}

/-- The last snapshot of an object: those stored before it are earlier, those stored after it are
not later. -/
theorem lastSnapshotRow_eq_some : Sql.lastSnapshotRow rows n = some m ↔
    ∃ l₁ l₂, rows.filter (·.noradCatId = n) = l₁ ++ m :: l₂ ∧ (∀ b ∈ l₁, b.epoch < m.epoch) ∧
      ∀ b ∈ l₂, b.epoch ≤ m.epoch := by
  simp only [Sql.lastSnapshotRow, head?_firstBy, Sql.latestFirst, not_le]

/-- No snapshot of the object is later than the last one. -/
theorem lastSnapshotRow_le (h : Sql.lastSnapshotRow rows n = some m) :
    ∀ b ∈ rows, b.noradCatId = n → b.epoch ≤ m.epoch := by
  intro b hb hn
  obtain ⟨l₁, l₂, heq, h₁, h₂⟩ := lastSnapshotRow_eq_some.1 h
  have hmem : b ∈ l₁ ++ m :: l₂ := heq ▸ List.mem_filter.2 ⟨hb, by simpa using hn⟩
  rcases List.mem_append.1 hmem with hb | hb
  · exact (h₁ b hb).le
  · rcases List.mem_cons.1 hb with rfl | hb
    · exact le_refl _
    · exact h₂ b hb

/-- There is no last row exactly when the object has none. -/
theorem lastSnapshotRow_eq_none :
    Sql.lastSnapshotRow rows n = none ↔ ∀ b ∈ rows, b.noradCatId ≠ n := by
  rw [Sql.lastSnapshotRow, List.head?_eq_none_iff, ← List.length_eq_zero_iff, firstBy_length]
  simp only [Nat.min_eq_zero_iff, Nat.one_ne_zero, false_or, List.length_eq_zero_iff,
    List.filter_eq_nil_iff, decide_eq_true_eq]

/-- A new snapshot of another object changes nothing. -/
theorem lastSnapshotRow_append_ne (h : row.noradCatId ≠ n) :
    Sql.lastSnapshotRow (rows ++ [row]) n = Sql.lastSnapshotRow rows n := by
  simp [Sql.lastSnapshotRow, List.filter_append, h]

/-- A new snapshot is the last one when it is later than all of its object. -/
theorem lastSnapshotRow_append_of_lt
    (h : ∀ b ∈ rows, b.noradCatId = row.noradCatId → b.epoch < row.epoch) :
    Sql.lastSnapshotRow (rows ++ [row]) row.noradCatId = some row := by
  refine lastSnapshotRow_eq_some.2 ⟨rows.filter (·.noradCatId = row.noradCatId), [], by simp,
    fun b hb => ?_, List.forall_mem_nil _⟩
  obtain ⟨hb, hn⟩ := List.mem_filter.1 hb
  exact h b hb (by simpa using hn)

/-- A new snapshot that is not later than the last one leaves it the last one. -/
theorem lastSnapshotRow_append_of_le (h : Sql.lastSnapshotRow rows n = some m)
    (hle : row.epoch ≤ m.epoch) : Sql.lastSnapshotRow (rows ++ [row]) n = some m := by
  by_cases hn : row.noradCatId = n
  · obtain ⟨l₁, l₂, heq, h₁, h₂⟩ := lastSnapshotRow_eq_some.1 h
    refine lastSnapshotRow_eq_some.2
      ⟨l₁, l₂ ++ [row], by simp [List.filter_append, heq, hn], h₁, ?_⟩
    exact List.forall_mem_append.2 ⟨h₂, List.forall_mem_singleton.2 hle⟩
  · rw [lastSnapshotRow_append_ne hn, h]

end

/-- A last snapshot is a row of the object, with the decay date of the object in its place. -/
theorem selectLast_some {X : Externals} {objects : Objects} {rows : List SnapshotRow} {n : Int}
    {p : Snapshot} (h : Sql.selectLast X objects rows n = some p) :
    ∃ o row, objects.find? n = some o ∧ Sql.lastSnapshotRow rows n = some row ∧
      p = row.toSnapshot X o.decayDate := by
  unfold Sql.selectLast at h
  obtain ⟨o, ho, h⟩ := Option.bind_eq_some_iff.1 h
  obtain ⟨row, hrow, rfl⟩ := Option.map_eq_some_iff.1 h
  exact ⟨o, row, ho, hrow, rfl⟩

/-- The id of the last snapshot is in use. -/
theorem getLastSnapshot_id {X : Externals} {db : Database} {n : Int} {p : Snapshot}
    (h : Sql.getLastSnapshot X n db = some p) : p.id ∈ db.snapshots.map (·.id) := by
  obtain ⟨o, row, -, hrow, rfl⟩ := selectLast_some h
  exact List.mem_map_of_mem (mem_of_lastSnapshotRow hrow).1

/-- A record repeats the last snapshot of its object exactly when that one has its `gp_id`. -/
theorem getLastSnapshot_any {X : Externals} {db : Database} {n g : Int} :
    (Sql.getLastSnapshot X n db).any (·.gpId = g) = true ↔
      ∃ m, Sql.lastSnapshotRow db.snapshots n = some m ∧ m.gpId = g := by
  rw [Sql.getLastSnapshot, Sql.selectLast]
  cases hm : Sql.lastSnapshotRow db.snapshots n with
  | none => simp
  | some m =>
    -- the join loses nothing: the object of a snapshot is there
    obtain ⟨hmem, rfl⟩ := mem_of_lastSnapshotRow hm
    obtain ⟨o, ho⟩ := Table.exists_find? (db.snapshot_objects m hmem)
    simp [ho, SnapshotRow.toSnapshot]

/-! ## The events of a pair -/

/-- The events of the default registry have seeded codes. -/
theorem snapshotEvents_codes (prev curr : Snapshot) :
    ∀ e ∈ makeDefaultRuleRegistry.evaluateAll prev curr, e.eventTypeCode ∈ eventTypeCodes := by
  intro e he
  have hsub : snapshotEventCodes ⊆ eventTypeCodes := by decide
  exact hsub (mem_snapshotEvents he)

/-- The events of a pair, as they are recorded. -/
def pairEvents (n : Int) (p q : Nat) (events : List DetectedEvent) : List RecordedEvent :=
  events.map fun e => ⟨n, e, some p, some q⟩

/-- The inserts of a pair's events commit one by one, up to the first call that does not go
through. -/
theorem insertEvents_run {n : Int} {p q : Nat} {events : List DetectedEvent} {s : Session}
    (hn : n ∈ s.db.objects.keys) (hp : p ∈ s.db.snapshots.map (·.id))
    (hq : q ∈ s.db.snapshots.map (·.id)) (hc : ∀ e ∈ events, e.eventTypeCode ∈ eventTypeCodes) :
    ∃ k ≤ (pairEvents n p q events).length,
      AppendsEvents ((pairEvents n p q events).take k) s.db
        (GpPoller.insertEvents n p q events s).2.db ∧
      (k = (pairEvents n p q events).length ↔
        ∀ i < (pairEvents n p q events).length, (s.env (s.used + i)).fault = .none) := by
  induction events generalizing s with
  | nil => exact ⟨0, le_refl _, .nil _, by simp [pairEvents]⟩
  | cons e events ih =>
    have ha : s.db.EventAllowed (Sql.eventRow s.call n e (some p) (some q) s.db) :=
      ⟨hn, hc e (.head _), fun i hi => Option.mem_some.1 hi ▸ hp,
        fun i hi => Option.mem_some.1 hi ▸ hq⟩
    have hbody : ((), ·) <$> Sql.insertEvent s.call n e (some p) (some q) s.db =
        .ok ((), s.db.addEvent _ ha) := map_unit_ok.2 (Sql.insertEvent_ok.2 ⟨ha, rfl⟩)
    unfold GpPoller.insertEvents DbWriter.insertEvent
    rw [Proc.forEach_cons, Proc.bind_run]
    cases hf : s.call.fault with
    | none =>
      rw [transaction_ok hf hbody]
      obtain ⟨k, hk, hev, hiff⟩ := @ih { s.next with db := s.db.addEvent _ ha } hn hp hq
        fun e' he' => hc e' (.tail _ he')
      refine ⟨k + 1, Nat.succ_le_succ hk, hev.cons ha, Nat.succ_inj.trans (hiff.trans ?_)⟩
      constructor
      · intro h i hi
        cases i with
        | zero => exact hf
        | succ i =>
          have hi' := h i (Nat.lt_of_succ_lt_succ hi)
          rwa [Session.next_env, Session.next_used, Nat.add_right_comm, Nat.add_assoc] at hi'
      · intro h i hi
        have hi' := h (i + 1) (Nat.succ_lt_succ hi)
        rwa [Nat.add_comm i 1, ← Nat.add_assoc] at hi'
    | fails =>
      rw [transaction_fails hf]
      refine ⟨0, Nat.zero_le _, .nil _, ⟨nofun, fun h => ?_⟩⟩
      have h0 : s.call.fault = .none := h 0 (Nat.succ_pos _)
      rw [hf] at h0
      cases h0
    | stops =>
      rw [transaction_stops hf]
      refine ⟨0, Nat.zero_le _, .nil _, ⟨nofun, fun h => ?_⟩⟩
      have h0 : s.call.fault = .none := h 0 (Nat.succ_pos _)
      rw [hf] at h0
      cases h0

/-! ## One record -/

/-- What `evaluate_all` fires for a record and its predecessor, as rows for a new snapshot. -/
def firedEvents (prev : Option Snapshot) (r : GpRecord) (newSnapshotId : Nat) :
    List RecordedEvent :=
  match prev with
  | none => []
  | some p => pairEvents r.object.noradCatId p.id newSnapshotId
      (makeDefaultRuleRegistry.evaluateAll p r.snapshot)

/-- The step after the insert of the snapshot. -/
theorem recordPair_run {r : GpRecord} {prev : Option Snapshot} {q : Nat} {s : Session}
    (hn : r.object.noradCatId ∈ s.db.objects.keys)
    (hp : ∀ p ∈ prev, p.id ∈ s.db.snapshots.map (·.id)) (hq : q ∈ s.db.snapshots.map (·.id)) :
    ∃ k ≤ (firedEvents prev r q).length,
      AppendsEvents ((firedEvents prev r q).take k) s.db (GpPoller.recordPair r prev q s).2.db ∧
      (k = (firedEvents prev r q).length ↔
        ∀ i < (firedEvents prev r q).length, (s.env (s.used + i)).fault = .none) := by
  cases prev with
  | none => exact ⟨0, le_refl _, .nil _, by simp [firedEvents]⟩
  | some p => exact insertEvents_run hn (hp p rfl) hq (snapshotEvents_codes p r.snapshot)

/-- The snapshot of the record is committed, as this row. -/
structure Stores (X : Externals) (r : GpRecord) (s : Session) (row : SnapshotRow) : Prop where
  queried : s.call.fault = .none
  fresh : (Sql.getLastSnapshot X r.object.noradCatId s.db).any (·.gpId = r.snapshot.gpId) = false
  inserted : s.next.call.fault = .none
  columns : SnapshotRow.ofSnapshot X (lastId (s.db.snapshots.map (·.id)) + 1 + s.next.call.gap)
    s.next.call.now r.snapshot = .ok row
  allowed : s.db.SnapshotAllowed row

section
variable {X : Externals} {r : GpRecord} {s : Session} {row : SnapshotRow}

/-- The rows that a stored record fires. -/
def Stores.fired (_ : Stores X r s row) : List RecordedEvent :=
  firedEvents (Sql.getLastSnapshot X r.object.noradCatId s.db) r row.id

/-- The process when a stored record's events are next. -/
def Stores.committed (h : Stores X r s row) : Session :=
  { s.next.next with
    db := s.db.addSnapshot row h.allowed
    counts := { s.counts with inserted := s.counts.inserted + 1 } }

/-- A record that is stored goes on with the events of its pair. -/
theorem storeRecord_run (h : Stores X r s row) : GpPoller.storeRecord X r s =
    GpPoller.recordPair r (Sql.getLastSnapshot X r.object.noradCatId s.db) row.id h.committed := by
  have hins : Sql.insertSnapshot X s.next.call r.snapshot s.next.db =
      .ok (row.id, s.db.addSnapshot row h.allowed) :=
    Sql.insertSnapshot_ok.2 ⟨row, h.columns, rfl, h.allowed, rfl⟩
  unfold GpPoller.storeRecord DbWriter.getLastSnapshot DbWriter.insertSnapshot
  rw [Proc.bind_ok (query_run _ h.queried), if_neg (by rw [h.fresh]; simp),
    Proc.bind_ok (transaction_ok h.inserted hins)]
  unfold GpPoller.countInserted
  rw [Proc.bind_ok (Proc.modify_run _ _)]
  rfl

/-- A record that is stored: its row, and its events up to the first call that does not go
through. -/
theorem storeRecord_stores (h : Stores X r s row) :
    ∃ k ≤ h.fired.length,
      AppendsEvents (h.fired.take k) (s.db.addSnapshot row h.allowed)
        (GpPoller.storeRecord X r s).2.db ∧
      (k = h.fired.length ↔ ∀ i < h.fired.length, (s.env (s.used + 2 + i)).fault = .none) := by
  rw [storeRecord_run h]
  refine @recordPair_run r _ row.id h.committed ?_ (fun p hp => ?_) ?_
  · show r.object.noradCatId ∈ s.db.objects.keys
    rw [← r.noradCatId_eq, ← (SnapshotRow.ofSnapshot_ok h.columns).2.1]
    exact h.allowed.2.2
  · show p.id ∈ (s.db.snapshots ++ [row]).map (·.id)
    rw [List.map_append]
    exact List.mem_append_left _ (getLastSnapshot_id hp)
  · exact List.mem_map_of_mem (List.mem_append_right _ (.head _))

/-- A record that is not stored leaves the tables as they were. -/
theorem storeRecord_skips (h : ∀ row, ¬ Stores X r s row) :
    (GpPoller.storeRecord X r s).2.db = s.db := by
  unfold GpPoller.storeRecord DbWriter.getLastSnapshot DbWriter.insertSnapshot
  rw [Proc.bind_run]
  rcases transaction_cases (fun call db => .ok ((fun _ db => Sql.getLastSnapshot X
    r.object.noradCatId db) call db, db)) s with ⟨hf, prev, db, hb, hq⟩ | ⟨-, e, hq⟩ | ⟨-, hq⟩ <;>
    unfold query <;> rw [hq]
  · cases hb
    dsimp only
    split
    · rfl
    · next hany =>
      rw [Proc.bind_run]
      rcases transaction_cases (fun call db => Sql.insertSnapshot X call r.snapshot db)
        { s.next with db := s.db } with ⟨hf', id, db', hi, ht⟩ | ⟨-, e, ht⟩ | ⟨-, ht⟩ <;> rw [ht]
      · obtain ⟨row, hrow, -, hal, -⟩ := Sql.insertSnapshot_ok.1 hi
        exact absurd ⟨hf, Bool.eq_false_iff.2 hany, hf', hrow, hal⟩ (h row)
      · rfl
      · rfl
  · rfl
  · rfl

/-- The handler around a record writes nothing. -/
theorem processRecord_db (X : Externals) (r : GpRecord) (s : Session) :
    (GpPoller.processRecord X r s).2.db = (GpPoller.storeRecord X r s).2.db := by
  unfold GpPoller.processRecord
  rw [Proc.attempt_run]
  rcases GpPoller.storeRecord X r s with ⟨_ | _ | _, s'⟩ <;> rfl

end

end VitaleBackend
