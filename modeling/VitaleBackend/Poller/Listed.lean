import VitaleBackend.Poller.Content
import VitaleBackend.Poller.Staleness
import VitaleBackend.Poller.Summary

/-!
# The element sets of a response

A response whose loop counts no error leaves the `gp_id` of every record that it lists in the
tables, by its own insert or by an earlier one (`GpRun.stored`). Whether that row is of the listed
element set is up to Space-Track: an `Archive` is what it gives out, where a `GP_ID` stands for one
element set. Whatever fails, the tables hold element sets of the archive only (`GpRun.holds`).
-/

namespace VitaleBackend

open Process Relational

/-! ## What is stored -/

/-- Some snapshot has this `gp_id`. -/
def HasGpId (g : Int) (db : Database) : Prop := g ∈ db.snapshots.map (·.gpId)

/-- A snapshot that is stored stays stored. -/
theorem HasGpId.mono {g : Int} {db db' : Database} (h : HasGpId g db)
    (hgrows : db.snapshots <+: db'.snapshots) : HasGpId g db' :=
  List.map_subset _ hgrows.subset h

namespace GpPoller

/-- The cursor is moved apart from the snapshots and the counters. -/
theorem advanceCursor_keepsTally (rotationTargetIds : List Int) :
    Proc.Within KeepsTally (advanceCursor rotationTargetIds) := by
  unfold advanceCursor
  split
  · refine transaction_within (fun _ => ⟨rfl, rfl⟩) fun s a db h => ?_
    obtain ⟨-, rfl⟩ := Sql.advanceGpRotationCursor_ok.1 (map_unit_ok.1 h)
    exact ⟨rfl, rfl⟩
  · exact .pure _

section
variable {X : Externals} {r : GpRecord} {rs : List GpRecord} {s t : Session}

/-- A record that goes through is stored, if it was not before. -/
theorem storeRecord_stored (h : storeRecord X r s = (.ok (), t)) :
    HasGpId r.snapshot.gpId t.db := by
  unfold storeRecord at h
  obtain ⟨prev, s₁, hprev, h⟩ := Proc.bind_eq_ok.1 h
  obtain ⟨-, rfl, rfl⟩ := query_eq_ok.1 hprev
  split at h
  · next hany =>
    obtain ⟨row, hrow, hg⟩ := getLastSnapshot_any.1 hany
    cases h
    exact hg ▸ List.mem_map_of_mem (mem_of_lastSnapshotRow hrow).1
  · obtain ⟨id, s₂, hinsert, h⟩ := Proc.bind_eq_ok.1 h
    obtain ⟨-, db, hdb, rfl⟩ := transaction_eq_ok.1 hinsert
    obtain ⟨row, hcolumns, -, hallowed, rfl⟩ := Sql.insertSnapshot_ok.1 hdb
    obtain ⟨_, s₃, hcount, h⟩ := Proc.bind_eq_ok.1 h
    -- the events of the pair add no snapshot
    have hkeeps := (recordPair_keepsTally r (Sql.getLastSnapshot X r.object.noradCatId s.db) id s₃).1
    rw [h] at hkeeps
    cases hcount
    rw [HasGpId, hkeeps]
    refine List.mem_map.2 ⟨row, List.mem_append_right _ (.head _), ?_⟩
    exact (SnapshotRow.ofSnapshot_ok hcolumns).2.2

/-- The turn of a record that counts no error. -/
theorem processRecord_stored (h : processRecord X r s = (.ok (), t))
    (herror : t.counts.error = s.counts.error) : HasGpId r.snapshot.gpId t.db := by
  obtain ⟨i, u, htakes, -⟩ := storeRecord_takes X r s
  unfold processRecord at h
  rw [Proc.attempt_run] at h
  rcases hrun : storeRecord X r s with ⟨_ | e | _, s'⟩ <;> rw [hrun] at h htakes <;> cases h
  · exact storeRecord_stored hrun
  · have hcounted : s'.counts.error + 1 = s.counts.error := herror
    rw [htakes.counts] at hcounted
    simp at hcounted

/-- A loop that counts no error stores all that it has. -/
theorem processRecords_stored (h : Proc.forEach (processRecord X) rs s = (.ok (), t))
    (herror : t.counts.error = s.counts.error) : ∀ r ∈ rs, HasGpId r.snapshot.gpId t.db := by
  induction rs generalizing s with
  | nil => exact List.forall_mem_nil _
  | cons r rs ih =>
    rw [Proc.forEach_cons] at h
    obtain ⟨_, s', hr, hrs⟩ := Proc.bind_eq_ok.1 h
    obtain ⟨_, _, e, hfirst, -⟩ := processRecord_takes X r s
    obtain ⟨_, _, e', hrest, -⟩ := processRecords_takes X rs s'
    rw [hr] at hfirst
    rw [hrs] at hrest
    have hcounted : s'.counts.error = s.counts.error + e := by rw [hfirst.counts]
    have hcounted' : t.counts.error = s'.counts.error + e' := by rw [hrest.counts]
    obtain ⟨new, hnew, -⟩ := hrest.snapshots
    refine List.forall_mem_cons.2 ⟨?_, ih hrs (by omega)⟩
    exact (processRecord_stored hr (by omega)).mono (hnew ▸ List.prefix_append _ _)

/-- A response that goes through and counts no error stores all that it lists. -/
theorem processResponse_stored {rotationTargetIds : List Int} {body : String}
    (h : processResponse X rotationTargetIds body s = (.ok (), t)) (herror : t.counts.error = 0) :
    ∀ r ∈ received X body, HasGpId r.snapshot.gpId t.db := by
  unfold processResponse at h
  unfold received
  cases hparse : parseGpResponse X body with
  | error e => exact List.forall_mem_nil _
  | ok rs =>
    rw [hparse, Proc.ofExcept_ok, pure_bind] at h
    obtain ⟨_, s₁, hreset, h⟩ := Proc.bind_eq_ok.1 h
    obtain ⟨_, s₂, hloop, hadvance⟩ := Proc.bind_eq_ok.1 h
    have hkeeps := advanceCursor_keepsTally rotationTargetIds s₂
    rw [hadvance] at hkeeps
    cases hreset
    intro r hr
    have hstored := processRecords_stored hloop (hkeeps.2 ▸ herror) r hr
    exact hstored.mono (hkeeps.1 ▸ List.prefix_refl _)

end

end GpPoller

/-! ## Where the rows come from -/

/-- What is new among the snapshots was converted from one of these records. -/
def TakenFrom (X : Externals) (rs : List GpRecord) (db db' : Database) : Prop :=
  ∀ row ∈ db'.snapshots, row ∈ db.snapshots ∨ ∃ r ∈ rs, row.ConvertedFrom X r.snapshot

/-- Nothing new was taken from anywhere. -/
instance {X : Externals} {rs : List GpRecord} : Std.Refl (TakenFrom X rs) :=
  ⟨fun _ _ hrow => .inl hrow⟩

/-- What two jobs in a row add, they add from the same records. -/
instance {X : Externals} {rs : List GpRecord} : IsTrans Database (TakenFrom X rs) :=
  ⟨fun _ _ _ h h' row hrow => (h' row hrow).elim (h row) .inr⟩

/-- Work that leaves the snapshots alone takes nothing. -/
theorem TakenFrom.of_eq {X : Externals} {rs : List GpRecord} {db db' : Database}
    (h : db'.snapshots = db.snapshots) : TakenFrom X rs db db' :=
  fun _ hrow => .inl (h ▸ hrow)

namespace GpPoller

/-- The turn of a record adds a row that was converted from it, or none. -/
theorem processRecord_takenFrom (X : Externals) {r : GpRecord} {rs : List GpRecord} (hr : r ∈ rs)
    (s : Session) : TakenFrom X rs s.db (processRecord X r s).2.db := by
  rw [processRecord_db]
  by_cases h : ∃ row, Stores X r s row
  · obtain ⟨row, h⟩ := h
    obtain ⟨k, -, hevents, -⟩ := storeRecord_stores h
    intro row' hrow'
    rw [hevents.snapshots, Database.addSnapshot_snapshots] at hrow'
    refine (List.mem_append.1 hrow').imp_right fun hnew => ⟨r, hr, ?_⟩
    rw [List.mem_singleton.1 hnew]
    exact (SnapshotRow.ofSnapshot_converted h.columns).2
  · exact .of_eq (by rw [storeRecord_skips fun row hrow => h ⟨row, hrow⟩])

/-- Whatever fails, a response stores nothing that it does not list. -/
theorem processResponse_takenFrom (X : Externals) (rotationTargetIds : List Int) (body : String)
    (s : Session) : TakenFrom X (received X body) s.db
      (processResponse X rotationTargetIds body s).2.db := by
  unfold processResponse received
  cases hparse : parseGpResponse X body with
  | error e => exact refl_of _ _
  | ok rs =>
    let R : Session → Session → Prop := fun s t => TakenFrom X rs s.db t.db
    have : Std.Refl R := ⟨fun s => refl_of (TakenFrom X rs) s.db⟩
    have : IsTrans Session R := ⟨fun _ _ _ => trans_of (TakenFrom X rs)⟩
    have hwithin : Proc.Within R (do
        Proc.modify fun s => { s with counts := {} }
        Proc.forEach (processRecord X) rs
        advanceCursor rotationTargetIds) := by
      refine Proc.Within.bind (R := R) (.modify fun s => refl_of (TakenFrom X rs) s.db) fun _ => ?_
      refine Proc.Within.bind (R := R) (.forEach fun r hr => processRecord_takenFrom X hr) ?_
      intro _ s
      exact .of_eq (advanceCursor_keepsTally rotationTargetIds s).1
    exact hwithin s

end GpPoller

/-! ## A run -/

/-- The element sets that Space-Track gives out. A `GP_ID` stands for one of them. -/
structure Archive where
  records : Set GpRecord
  identified : ∀ a ∈ records, ∀ b ∈ records, a.snapshot.gpId = b.snapshot.gpId →
    a.object.noradCatId = b.object.noradCatId ∧ a.snapshot.epoch = b.snapshot.epoch

/-- The snapshots are of element sets of the archive. -/
def Archive.Holds (A : Archive) (X : Externals) (db : Database) : Prop :=
  ∀ row ∈ db.snapshots, ∃ a ∈ A.records, row.ConvertedFrom X a.snapshot

/-- In such tables a `gp_id` is that of the object and the epoch of its element set. -/
theorem Archive.Holds.row {A : Archive} {X : Externals} {db : Database} (h : A.Holds X db)
    {r : GpRecord} (hr : r ∈ A.records) (hstored : HasGpId r.snapshot.gpId db) :
    ∃ row ∈ db.snapshots, row.noradCatId = r.object.noradCatId ∧
      columnInput X.timestampIn r.snapshot.epoch = .ok row.epoch := by
  obtain ⟨row, hrow, hg⟩ := List.mem_map.1 hstored
  obtain ⟨a, ha, hconverted⟩ := h row hrow
  have hga : a.snapshot.gpId = row.gpId := (integerColumn_ok.1 hconverted.gpId).2
  have hna : a.snapshot.noradCatId = row.noradCatId := (integerColumn_ok.1 hconverted.noradCatId).2
  obtain ⟨hn, hepoch⟩ := A.identified a ha r hr (hga.trans hg)
  refine ⟨row, hrow, ?_, hepoch ▸ hconverted.epoch⟩
  rw [← hna, a.noradCatId_eq, hn]

namespace GpRun

/-- The body of the response, if the run gets one. -/
def response (X : Externals) (r : GpRun) : Option String :=
  match ((r.poller X).fetch r.start).1 with
  | .ok body => body
  | _ => none

section
variable {X : Externals} {r : GpRun} {A : Archive}

/-- Whatever fails, the tables hold element sets of the archive when all that is listed is of it. -/
theorem holds (h : A.Holds X r.start.db)
    (hlisted : ∀ body ∈ r.response X, ∀ rec ∈ received X body, rec ∈ A.records) :
    A.Holds X (r.finish X).db := by
  have hdb : ((r.poller X).fetch r.start).2.db = r.start.db :=
    (fetch_onRun (r.poller X) (Q := KeepsDb id) r.start).db
  unfold response at hlisted
  unfold finish Poller.run
  rw [Proc.bind_run]
  rcases hfetch : (r.poller X).fetch r.start with ⟨(_ | body) | e | _, s⟩ <;>
    rw [hfetch] at hdb hlisted <;> dsimp only at hdb hlisted ⊢
  · exact hdb.symm ▸ h
  · rw [handle_db]
    intro row hrow
    rcases GpPoller.processResponse_takenFrom X r.rotationTargets body s row hrow with hold | hnew
    · exact h row (hdb ▸ hold)
    · obtain ⟨rec, hrec, hconverted⟩ := hnew
      exact ⟨rec, hlisted body rfl rec hrec, hconverted⟩
  · exact hdb.symm ▸ h
  · exact hdb.symm ▸ h

/-- A successful run that counts no error stores all that its response lists. -/
theorem stored (h : r.Succeeds X) (herror : (r.finish X).counts.error = 0) :
    ∀ body ∈ r.response X, ∀ rec ∈ received X body, HasGpId rec.snapshot.gpId (r.finish X).db := by
  obtain ⟨body, s, hfetch, hok⟩ := h
  have hprocess : (r.poller X).processResponse body s =
      (.ok (), ((r.poller X).processResponse body s).2) := Prod.ext hok rfl
  have hfinish : r.finish X = ((r.poller X).processResponse body s).2 := by
    unfold finish Poller.run
    rw [Proc.bind_ok hfetch]
    show ((r.poller X).handle body s).2 = _
    unfold Poller.handle
    rw [Proc.attempt_run, hprocess]
  rw [hfinish] at herror ⊢
  unfold response
  rw [hfetch]
  rintro _ ⟨⟩
  exact GpPoller.processResponse_stored hprocess herror

end

end GpRun

end VitaleBackend
