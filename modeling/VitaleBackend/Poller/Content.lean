import VitaleBackend.Poller.StoreRecord

/-!
# A GP response without failures

What the GP poller is for, apart from generated ids and times: `GpContent` names a snapshot by its
`gp_id`, and `GpContent.respond` is what a response does to it. When no call fails, the process
refines it (`handle_refines`): the tables that a response leaves have the content that `respond`
computes from the content it found.
-/

namespace VitaleBackend

open Process Relational

/-! ## Content -/

/-- A row of `snapshots` without its id and time. -/
def SnapshotRow.content (row : SnapshotRow) : SnapshotRow := { row with id := 0, fetchedAt := 0 }

/-- The content of a row has its `gp_id`. -/
@[simp] theorem SnapshotRow.content_gpId (row : SnapshotRow) : row.content.gpId = row.gpId := rfl

/-- The content of a row has its object. -/
@[simp] theorem SnapshotRow.content_noradCatId (row : SnapshotRow) :
    row.content.noradCatId = row.noradCatId := rfl

/-- The content of a row has its epoch, and leaves out its id and the time when it was fetched. -/
@[simp] theorem SnapshotRow.content_epoch (row : SnapshotRow) : row.content.epoch = row.epoch := rfl

/-- A recorded event, whose snapshots are named by their `gp_id`. -/
structure EventContent where
  noradCatId : Int
  event : DetectedEvent
  prevGpId : Option Int
  newGpId : Option Int

/-- The `gp_id` of the snapshot with an id. -/
def gpIdOf (rows : List SnapshotRow) (id : Nat) : Option Int :=
  (rows.find? fun row => row.id = id).map (·.gpId)

/-- An event with the `gp_id`s of its snapshots for their ids. -/
def RecordedEvent.content (rows : List SnapshotRow) (r : RecordedEvent) : EventContent where
  noradCatId := r.noradCatId
  event := r.event
  prevGpId := r.prevSnapshotId.bind (gpIdOf rows)
  newGpId := r.newSnapshotId.bind (gpIdOf rows)

/-- What a GP response reads and writes, apart from the rotation cursor. -/
@[ext] structure GpContent where
  objects : Objects
  snapshots : List SnapshotRow
  events : List EventContent

/-- The content of the tables: what does not depend on ids and on times. -/
def Database.content (db : Database) : GpContent where
  objects := db.objects
  snapshots := db.snapshots.map (·.content)
  events := (db.audtEvents.map (·.recorded)).map (·.content db.snapshots)

namespace GpContent

/-- The last snapshot of an object. -/
def last (X : Externals) (c : GpContent) (n : Int) : Option Snapshot :=
  Sql.selectLast X c.objects c.snapshots n

/-- The events of a record. -/
def fired (X : Externals) (c : GpContent) (r : GpRecord) : List EventContent :=
  match c.last X r.object.noradCatId with
  | none => []
  | some p => (makeDefaultRuleRegistry.evaluateAll p r.snapshot).map fun e =>
      ⟨r.object.noradCatId, e, some p.gpId, some r.snapshot.gpId⟩

/-- The tables take the record: its columns fit, its `gp_id` is new and its object is known. -/
structure Takes (X : Externals) (c : GpContent) (r : GpRecord) (row : SnapshotRow) : Prop where
  columns : SnapshotRow.ofSnapshot X 0 0 r.snapshot = .ok row
  fresh : r.snapshot.gpId ∉ c.snapshots.map (·.gpId)
  known : r.object.noradCatId ∈ c.objects.keys

/-- The content after a record that the tables take. -/
def add (X : Externals) (c : GpContent) (r : GpRecord) (row : SnapshotRow) : GpContent where
  objects := c.objects
  snapshots := c.snapshots ++ [row]
  events := c.events ++ c.fired X r

/-- The content after a record. -/
def store (X : Externals) (c : GpContent) (r : GpRecord) : GpContent :=
  match SnapshotRow.ofSnapshot X 0 0 r.snapshot with
  | .error _ => c
  | .ok row =>
    if r.snapshot.gpId ∉ c.snapshots.map (·.gpId) ∧ r.object.noradCatId ∈ c.objects.keys then
      c.add X r row
    else c

section
variable {X : Externals} {c : GpContent} {r : GpRecord} {row : SnapshotRow}

/-- A record that is taken is added. -/
theorem store_of_takes (h : c.Takes X r row) : c.store X r = c.add X r row := by
  unfold store
  rw [h.columns]
  exact if_pos ⟨h.fresh, h.known⟩

/-- A record that is not taken changes nothing. -/
theorem store_of_not_takes (h : ∀ row, ¬ c.Takes X r row) : c.store X r = c := by
  unfold store
  split
  · rfl
  · next row hrow =>
    refine if_neg fun hc => h row ⟨hrow, hc.1, hc.2⟩

end

end GpContent

/-! ## Content of the tables -/

section
variable {db db' : Database}

/-- The content has the `gp_id`s of the table. -/
theorem content_gpIds (db : Database) :
    db.content.snapshots.map (·.gpId) = db.snapshots.map (·.gpId) := by
  show (db.snapshots.map (·.content)).map (·.gpId) = _
  rw [List.map_map]
  rfl

/-- The last row of the content is the last row, without its id and time. -/
theorem lastSnapshotRow_content (rows : List SnapshotRow) (n : Int) :
    Sql.lastSnapshotRow (rows.map (·.content)) n =
      (Sql.lastSnapshotRow rows n).map (·.content) := by
  unfold Sql.lastSnapshotRow
  rw [List.filter_map, ← map_firstBy Sql.latestFirst SnapshotRow.content (fun _ _ => Iff.rfl),
    List.head?_map]
  rfl

/-- The last snapshot of the content is the last snapshot, with its id left out. -/
theorem content_last (X : Externals) (db : Database) (n : Int) :
    db.content.last X n = (Sql.getLastSnapshot X n db).map fun p => { p with id := 0 } := by
  show Sql.selectLast X db.objects (db.snapshots.map (·.content)) n = _
  unfold Sql.getLastSnapshot Sql.selectLast
  rw [lastSnapshotRow_content]
  cases db.objects.find? n with
  | none => rfl
  | some o => cases Sql.lastSnapshotRow db.snapshots n <;> rfl

/-- A new snapshot does not change what the ids in use name. -/
theorem gpIdOf_append {rows : List SnapshotRow} {row : SnapshotRow} {id : Nat}
    (h : id ∈ rows.map (·.id)) : gpIdOf (rows ++ [row]) id = gpIdOf rows id := by
  obtain ⟨r, hr, rfl⟩ := List.mem_map.1 h
  unfold gpIdOf
  rw [List.find?_append, Option.or_of_isSome]
  rw [List.find?_isSome]
  exact ⟨r, hr, decide_eq_true rfl⟩

/-- An id in use names the `gp_id` of its row. -/
theorem gpIdOf_mem {rows : List SnapshotRow} (hnodup : (rows.map (·.id)).Nodup) {row : SnapshotRow}
    (h : row ∈ rows) : gpIdOf rows row.id = some row.gpId := by
  have hfind : rows.find? (fun r => r.id = row.id) = some row :=
    (Table.find?_eq_some (t := ⟨rows, hnodup⟩)).2 ⟨h, rfl⟩
  unfold gpIdOf
  rw [hfind]
  rfl

/-- The content of the recorded events after a new snapshot. -/
theorem content_events_append (db : Database) (row : SnapshotRow) :
    (db.audtEvents.map (·.recorded)).map (·.content (db.snapshots ++ [row])) =
      db.content.events := by
  show _ = (db.audtEvents.map (·.recorded)).map (·.content db.snapshots)
  refine List.map_congr_left fun r hr => ?_
  obtain ⟨e, he, rfl⟩ := List.mem_map.1 hr
  have hid : ∀ o : Option Nat, (∀ i ∈ o, i ∈ db.snapshots.map (·.id)) →
      o.bind (gpIdOf (db.snapshots ++ [row])) = o.bind (gpIdOf db.snapshots) := by
    intro o ho
    cases o with
    | none => rfl
    | some i => exact gpIdOf_append (ho i rfl)
  unfold RecordedEvent.content
  rw [hid e.recorded.prevSnapshotId (db.event_prev e he),
    hid e.recorded.newSnapshotId (db.event_new e he)]

end

/-! ## One record -/

/-- The columns take the same element sets whatever the id and the time. -/
theorem SnapshotRow.ofSnapshot_content {X : Externals} {id : Nat} {now : Timestamp}
    {snap : Snapshot} {row : SnapshotRow} (h : SnapshotRow.ofSnapshot X id now snap = .ok row) :
    SnapshotRow.ofSnapshot X 0 0 snap = .ok row.content := by
  rw [SnapshotRow.ofSnapshot_eq] at h ⊢
  cases h₀ : SnapshotRow.ofSnapshot X 0 0 snap with
  | error e =>
    rw [h₀] at h
    cases h
  | ok row₀ =>
    rw [h₀] at h
    cases h
    rfl

section
variable {X : Externals} {r : GpRecord} {s : Session} {row : SnapshotRow}

/-- A record that is stored is one that the tables take. -/
theorem Stores.takes (h : Stores X r s row) : s.db.content.Takes X r row.content := by
  obtain ⟨-, hn, hg⟩ := SnapshotRow.ofSnapshot_ok h.columns
  refine ⟨SnapshotRow.ofSnapshot_content h.columns, ?_, ?_⟩
  · rw [content_gpIds, ← hg]
    exact h.allowed.2.1
  · rw [← r.noradCatId_eq, ← hn]
    exact h.allowed.2.2

/-- When no call fails, a record that the tables take is stored. -/
theorem GpContent.Takes.stores {row₀ : SnapshotRow} (h : s.db.content.Takes X r row₀)
    (hc : Calm s.env) : ∃ row, Stores X r s row := by
  have hrow := SnapshotRow.ofSnapshot_eq X
    (lastId (s.db.snapshots.map (·.id)) + 1 + s.next.call.gap)
    s.next.call.now r.snapshot
  rw [h.columns] at hrow
  obtain ⟨hid, hn, hg⟩ := SnapshotRow.ofSnapshot_ok hrow
  have hfresh := h.fresh
  rw [content_gpIds] at hfresh
  refine ⟨_, hc _, ?_, hc _, hrow, ?_, ?_, ?_⟩
  · -- the predecessor's `gp_id` is in use, the record's is not
    cases hlast : Sql.getLastSnapshot X r.object.noradCatId s.db with
    | none => rfl
    | some p =>
      obtain ⟨o, prow, -, hprow, rfl⟩ := selectLast_some hlast
      refine decide_eq_false fun heq => hfresh ?_
      rw [← heq]
      exact List.mem_map_of_mem (mem_of_lastSnapshotRow hprow).1
  · rw [hid]
    intro hmem
    have := le_lastId hmem
    omega
  · rw [hg]
    exact hfresh
  · rw [hn, r.noradCatId_eq]
    exact h.known

/-- The rows fired for a stored record have the content of the events fired. -/
theorem Stores.fired_content (h : Stores X r s row) :
    h.fired.map (·.content (s.db.snapshots ++ [row])) = s.db.content.fired X r := by
  have hnodup : ((s.db.snapshots ++ [row]).map (·.id)).Nodup :=
    (s.db.addSnapshot row h.allowed).snapshot_ids
  have hnew : gpIdOf (s.db.snapshots ++ [row]) row.id = some r.snapshot.gpId := by
    rw [gpIdOf_mem hnodup (List.mem_append_right _ (.head _)),
      (SnapshotRow.ofSnapshot_ok h.columns).2.2]
  unfold Stores.fired firedEvents GpContent.fired
  rw [content_last]
  cases hlast : Sql.getLastSnapshot X r.object.noradCatId s.db with
  | none => rfl
  | some p =>
    obtain ⟨o, prow, -, hprow, rfl⟩ := selectLast_some hlast
    have hold : gpIdOf (s.db.snapshots ++ [row]) prow.id = some prow.gpId :=
      gpIdOf_mem hnodup (List.mem_append_left _ (mem_of_lastSnapshotRow hprow).1)
    unfold pairEvents
    rw [List.map_map]
    refine List.map_congr_left fun e _ => ?_
    simp only [Function.comp_apply, RecordedEvent.content, Option.bind_some, hnew]
    exact congrArg (EventContent.mk _ e · _) hold

/-- When no call fails, a record changes the content as `store` does. -/
theorem storeRecord_refines (X : Externals) (r : GpRecord) (s : Session) (hc : Calm s.env) :
    (GpPoller.storeRecord X r s).2.db.content = s.db.content.store X r := by
  by_cases h : ∃ row, Stores X r s row
  · obtain ⟨row, h⟩ := h
    obtain ⟨k, -, hev, hiff⟩ := storeRecord_stores h
    rw [hiff.2 fun i _ => hc _, List.take_length] at hev
    rw [GpContent.store_of_takes h.takes]
    refine GpContent.ext ?_ ?_ ?_
    · exact hev.objects
    · show List.map _ _ = _
      rw [hev.snapshots, Database.addSnapshot_snapshots, List.map_append]
      rfl
    · show List.map _ (List.map _ _) = _
      rw [hev.audtEvents, hev.snapshots, Database.addSnapshot_snapshots, List.map_append,
        Database.addSnapshot_audtEvents, content_events_append, h.fired_content]
      rfl
  · rw [storeRecord_skips fun row hrow => h ⟨row, hrow⟩, GpContent.store_of_not_takes]
    exact fun row₀ ht => h (ht.stores hc)

end

/-! ## A whole response -/

namespace GpContent

/-- The content after some records, in order. -/
def storeAll (X : Externals) (c : GpContent) (rs : List GpRecord) : GpContent :=
  rs.foldl (fun c r => c.store X r) c

/-- No records change nothing. -/
@[simp] theorem storeAll_nil (X : Externals) (c : GpContent) : c.storeAll X [] = c := rfl

/-- Records are stored one after the other. -/
@[simp] theorem storeAll_cons (X : Externals) (c : GpContent) (r : GpRecord) (rs : List GpRecord) :
    c.storeAll X (r :: rs) = (c.store X r).storeAll X rs := rfl

/-- What two lists store they store in a row. -/
theorem storeAll_append (X : Externals) (c : GpContent) (rs rs' : List GpRecord) :
    c.storeAll X (rs ++ rs') = (c.storeAll X rs).storeAll X rs' :=
  List.foldl_append

/-- The cursor after a batch: the last rotation target, when the column takes it. -/
def advanced (rot : List Int) (cursor : Option Int) : Option Int :=
  match rot.getLast? with
  | some n => if IsInt32 n then some n else cursor
  | none => cursor

/-- The content and the cursor after a response. -/
def respond (X : Externals) (rot : List Int) (body : String) (c : GpContent) (cursor : Option Int) :
    GpContent × Option Int :=
  match parseGpResponse X body with
  | .error _ => (c, cursor)
  | .ok rs => (c.storeAll X rs, advanced rot cursor)

section
variable {X : Externals} {rot : List Int} {body : String} {c : GpContent} {cursor : Option Int}

/-- A response that is rejected changes nothing. -/
theorem respond_error {e : Exn} (h : parseGpResponse X body = .error e) :
    respond X rot body c cursor = (c, cursor) := by
  unfold respond
  rw [h]

/-- A response that is parsed stores its records and advances the cursor. -/
theorem respond_ok {rs : List GpRecord} (h : parseGpResponse X body = .ok rs) :
    respond X rot body c cursor = (c.storeAll X rs, advanced rot cursor) := by
  unfold respond
  rw [h]

end

end GpContent

/-- When no call fails no transaction stops the process. -/
theorem transaction_ends (body : Call → Database → Except Exn (α × Database)) :
    Proc.Ends (fun s => Calm s.env) (transaction body) := by
  intro s hs
  rcases transaction_cases body s with ⟨-, a, db, -, h⟩ | ⟨-, e, h⟩ | ⟨hf, h⟩
  · rw [h]
    exact ⟨nofun, hs⟩
  · rw [h]
    exact ⟨nofun, hs⟩
  · rw [show s.call.fault = .none from hs _] at hf
    cases hf

/-- When no call fails nothing stops the process while it stores a record. -/
theorem storeRecord_ends (X : Externals) (r : GpRecord) :
    Proc.Ends (fun s => Calm s.env) (GpPoller.storeRecord X r) := by
  refine Proc.Ends.bind (transaction_ends _) fun prev => ?_
  split
  · exact Proc.Ends.modify fun _ h => h
  · refine Proc.Ends.bind (transaction_ends _) fun id => Proc.Ends.bind ?_ fun _ => ?_
    · exact Proc.Ends.modify fun _ h => h
    · cases prev with
      | none => exact .pure _
      | some p => exact Proc.Ends.forEach fun e _ => transaction_ends _

/-- When no call fails, the turn of a record comes to its end and refines `store`. -/
theorem processRecord_refines (X : Externals) (r : GpRecord) {s : Session} (hc : Calm s.env) :
    ∃ s', GpPoller.processRecord X r s = (.ok (), s') ∧ Calm s'.env ∧
      s'.db.content = s.db.content.store X r ∧ s'.db.pollerState = s.db.pollerState := by
  have hends : (GpPoller.processRecord X r s).1 = .ok () ∧
      Calm (GpPoller.processRecord X r s).2.env :=
    (storeRecord_ends X r).attempt_ok (fun e s hs => ⟨rfl, hs⟩) s hc
  refine ⟨_, Prod.ext hends.1 rfl, hends.2, ?_, (processRecord_within X r s).1.pollerState⟩
  rw [processRecord_db, storeRecord_refines X r s hc]

/-- The loop over the records. -/
theorem processRecords_refines (X : Externals) (rs : List GpRecord) {s : Session}
    (hc : Calm s.env) : ∃ s', Proc.forEach (GpPoller.processRecord X) rs s = (.ok (), s') ∧
      Calm s'.env ∧ s'.db.content = s.db.content.storeAll X rs ∧
      s'.db.pollerState = s.db.pollerState := by
  induction rs generalizing s with
  | nil => exact ⟨s, rfl, hc, rfl, rfl⟩
  | cons r rs ih =>
    obtain ⟨s₁, h₁, hc₁, hcont₁, hst₁⟩ := processRecord_refines X r hc
    obtain ⟨s₂, h₂, hc₂, hcont₂, hst₂⟩ := ih hc₁
    refine ⟨s₂, ?_, hc₂, ?_, hst₂.trans hst₁⟩
    · rw [Proc.forEach_cons, Proc.bind_ok h₁, h₂]
    · rw [hcont₂, hcont₁, GpContent.storeAll_cons]

/-- The last step of a response. -/
theorem advanceCursor_refines (rot : List Int) {s : Session} (hc : Calm s.env) :
    (GpPoller.advanceCursor rot s).2.db.content = s.db.content ∧
      (GpPoller.advanceCursor rot s).2.db.rotationCursor =
        GpContent.advanced rot s.db.rotationCursor := by
  unfold GpPoller.advanceCursor GpContent.advanced
  cases rot.getLast? with
  | none => exact ⟨rfl, rfl⟩
  | some n =>
    have hf : s.call.fault = .none := hc _
    dsimp only
    unfold DbWriter.advanceGpRotationCursor
    split
    · next h32 =>
      obtain ⟨db', ha⟩ : ∃ db', Sql.advanceGpRotationCursor n s.call.now s.db = .ok db' :=
        ⟨_, Sql.advanceGpRotationCursor_ok.2 ⟨h32, rfl⟩⟩
      obtain ⟨-, hdb⟩ := Sql.advanceGpRotationCursor_ok.1 ha
      rw [transaction_ok hf ((map_unit_ok (r := ((), db'))).2 ha)]
      refine ⟨?_, Sql.rotationCursor_advance ha⟩
      rw [hdb]
      rfl
    · next h32 =>
      have ha : Sql.advanceGpRotationCursor n s.call.now s.db = .error .db := by
        unfold Sql.advanceGpRotationCursor integerColumn
        rw [if_neg h32]
        rfl
      rw [transaction_error (e := .db) hf (by rw [ha]; rfl)]
      exact ⟨rfl, rfl⟩

/-- When no call fails, a response changes the content and the cursor as `respond` does. -/
theorem processResponse_refines (X : Externals) (rot : List Int) (body : String) {s : Session}
    (hc : Calm s.env) :
    ((GpPoller.processResponse X rot body s).2.db.content,
      (GpPoller.processResponse X rot body s).2.db.rotationCursor) =
      GpContent.respond X rot body s.db.content s.db.rotationCursor := by
  unfold GpPoller.processResponse
  cases hp : parseGpResponse X body with
  | error e =>
    rw [GpContent.respond_error hp]
    rfl
  | ok rs =>
    rw [GpContent.respond_ok hp]
    obtain ⟨s', h, hc', hcont, hst⟩ := @processRecords_refines X rs { s with counts := {} } hc
    obtain ⟨hadv, hcur⟩ := advanceCursor_refines rot hc'
    rw [Proc.ofExcept_ok, pure_bind, Proc.bind_ok (Proc.modify_run _ s), Proc.bind_ok h, hadv, hcur,
      hcont]
    unfold Database.rotationCursor
    rw [hst]

/-- The handler around a response adds nothing. -/
theorem handle_refines (X : Externals) (hot rot : List Int) (body : String) {s : Session}
    (hc : Calm s.env) :
    (((gpPoller X hot rot).handle body s).2.db.content,
      ((gpPoller X hot rot).handle body s).2.db.rotationCursor) =
      GpContent.respond X rot body s.db.content s.db.rotationCursor := by
  rw [handle_db]
  exact processResponse_refines X rot body hc

/-- The records of a response: none when it is rejected. -/
def received (X : Externals) (body : String) : List GpRecord :=
  (parseGpResponse X body).toOption.getD []

/-- A response whose calls do not fail stores the records it carries, one after the other. -/
theorem processResponse_content (X : Externals) (rot : List Int) (body : String) {s : Session}
    (hc : Calm s.env) : (GpPoller.processResponse X rot body s).2.db.content =
      s.db.content.storeAll X (received X body) := by
  refine (congrArg Prod.fst (processResponse_refines X rot body hc)).trans ?_
  unfold GpContent.respond received
  cases parseGpResponse X body <;> rfl

end VitaleBackend
