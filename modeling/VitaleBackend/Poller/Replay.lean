import VitaleBackend.Poller.Commits
import VitaleBackend.Poller.History

/-!
# The same response twice

A record is recognised by the `gp_id` of the last snapshot of its object, and refused by any other
snapshot with its `gp_id`. So a response that was handled without an error is a no-op when it comes
again exactly when each of its records became, or already was, the last snapshot of its object
(`redelivery_noop_iff`). `Settles` says when that is so in terms of the response and the tables
before it.
-/

namespace VitaleBackend

open Process Relational

/-! ## The rows of a response without errors -/

/-- Each record was the last snapshot of its object at its turn, or became a row. -/
inductive Taken (X : Externals) : List GpRecord → List SnapshotRow → List SnapshotRow → Prop
  | nil (rows : List SnapshotRow) : Taken X [] rows rows
  | unchanged {r : GpRecord} {rs : List GpRecord} {rows rows' : List SnapshotRow}
      {m : SnapshotRow} :
      Sql.lastSnapshotRow rows r.object.noradCatId = some m → m.gpId = r.snapshot.gpId →
      Taken X rs rows rows' → Taken X (r :: rs) rows rows'
  | inserted {r : GpRecord} {rs : List GpRecord} {rows rows' : List SnapshotRow}
      {row : SnapshotRow} :
      row.noradCatId = r.object.noradCatId → row.gpId = r.snapshot.gpId →
      X.timestampIn r.snapshot.epoch = some row.epoch → row.gpId ∉ rows.map (·.gpId) →
      Taken X rs (rows ++ [row]) rows' → Taken X (r :: rs) rows rows'

/-- The last snapshot of the record's object is the record. -/
def Repeats (rows : List SnapshotRow) (r : GpRecord) : Prop :=
  ∃ m, Sql.lastSnapshotRow rows r.object.noradCatId = some m ∧ m.gpId = r.snapshot.gpId

/-- Every record that is new when its turn comes is later than all that is stored of its object, and
no object occurs with two element sets. -/
structure Settles (X : Externals) (rows : List SnapshotRow) (rs : List GpRecord) : Prop where
  single : ∀ r ∈ rs, ∀ r' ∈ rs, r.object.noradCatId = r'.object.noradCatId →
    r.snapshot.gpId = r'.snapshot.gpId
  later : ∀ pre r post, rs = pre ++ r :: post → r.snapshot.gpId ∉ rows.map (·.gpId) →
    r.snapshot.gpId ∉ pre.map (·.snapshot.gpId) →
    ∀ row ∈ rows, row.noradCatId = r.object.noradCatId →
      ∀ t ∈ X.timestampIn r.snapshot.epoch, row.epoch < t

section
variable {X : Externals} {rows rows' : List SnapshotRow} {row : SnapshotRow} {r : GpRecord}
  {rs : List GpRecord}

/-- A new snapshot is the last of its object, or leaves what was last. -/
theorem lastSnapshotRow_append (rows : List SnapshotRow) (row : SnapshotRow) (n : Int) :
    Sql.lastSnapshotRow (rows ++ [row]) n = Sql.lastSnapshotRow rows n ∨
      Sql.lastSnapshotRow (rows ++ [row]) n = some row := by
  by_cases hn : row.noradCatId = n
  · subst hn
    cases hm : Sql.lastSnapshotRow rows row.noradCatId with
    | none =>
      have hno := lastSnapshotRow_eq_none.1 hm
      exact .inr (lastSnapshotRow_append_of_lt fun b hb hbn => absurd hbn (hno b hb))
    | some m =>
      rcases le_or_gt row.epoch m.epoch with hle | hlt
      · exact .inl (lastSnapshotRow_append_of_le hm hle)
      · exact .inr (lastSnapshotRow_append_of_lt fun b hb hbn =>
          (lastSnapshotRow_le hm b hb hbn).trans_lt hlt)
  · exact .inl (lastSnapshotRow_append_ne hn)

/-- What is last after a response was last before it, or was not stored before it. -/
theorem Taken.last (h : Taken X rs rows rows') (n : Int) :
    Sql.lastSnapshotRow rows' n = Sql.lastSnapshotRow rows n ∨
      ∃ m, Sql.lastSnapshotRow rows' n = some m ∧ m.gpId ∉ rows.map (·.gpId) := by
  induction h with
  | nil rows => exact .inl rfl
  | unchanged _ _ _ ih => exact ih
  | @inserted r rs rows rows' row _ _ _ hnew _ ih =>
    rcases ih with hlast | ⟨m, hm, hmem⟩
    · rcases lastSnapshotRow_append rows row n with hsame | hself
      · exact .inl (hlast.trans hsame)
      · exact .inr ⟨row, hlast.trans hself, hnew⟩
    · refine .inr ⟨m, hm, fun h => hmem ?_⟩
      rw [List.map_append]
      exact List.mem_append_left _ h

/-- A last snapshot that is the only one its object occurs with stays the last. -/
theorem Taken.keeps_last {m : SnapshotRow} {n : Int} (h : Taken X rs rows rows')
    (hm : Sql.lastSnapshotRow rows n = some m)
    (hrs : ∀ r ∈ rs, r.object.noradCatId = n → r.snapshot.gpId = m.gpId) :
    Sql.lastSnapshotRow rows' n = some m := by
  induction h with
  | nil rows => exact hm
  | unchanged _ _ _ ih => exact ih hm fun r hr => hrs r (.tail _ hr)
  | @inserted r rs rows rows' row hn hg _ hnew _ ih =>
    refine ih ?_ fun r hr => hrs r (.tail _ hr)
    by_cases hne : row.noradCatId = n
    · refine absurd ?_ hnew
      rw [hg, hrs r (.head _) (hn.symm.trans hne)]
      exact List.mem_map_of_mem (mem_of_lastSnapshotRow hm).1
    · rw [lastSnapshotRow_append_ne hne, hm]

/-- After its first record a response is still one that settles. -/
theorem Settles.tail {rows₁ : List SnapshotRow} (h : Settles X rows (r :: rs))
    (hsub : ∀ b ∈ rows₁, b ∈ rows ∨ b.noradCatId = r.object.noradCatId)
    (hids : rows.map (·.gpId) ⊆ rows₁.map (·.gpId))
    (hmem : r.snapshot.gpId ∈ rows₁.map (·.gpId)) : Settles X rows₁ rs := by
  refine ⟨fun a ha b hb => h.single a (.tail _ ha) b (.tail _ hb), ?_⟩
  rintro pre r' post rfl hnew hpre b hb hbn t ht
  rcases hsub b hb with hb | hb
  · refine h.later (r :: pre) r' post rfl (fun h => hnew (hids h)) ?_ b hb hbn t ht
    rw [List.map_cons, List.mem_cons, not_or]
    exact ⟨fun heq => hnew (heq ▸ hmem), hpre⟩
  · -- the new row is of the first record, so that `r'` has the same `gp_id`
    have hsame : r'.snapshot.gpId = r.snapshot.gpId :=
      h.single r' (.tail _ (List.mem_append_right _ (.head _))) r (.head _) (hbn.symm.trans hb)
    exact absurd (hsame ▸ hmem) hnew

/-- A response that settles is repeated by the rows it leaves. -/
theorem Taken.repeats (h : Taken X rs rows rows') (hs : Settles X rows rs) :
    ∀ r ∈ rs, Repeats rows' r := by
  induction h with
  | nil rows => exact List.forall_mem_nil _
  | @unchanged r rs rows rows' m hm hg h ih =>
    have htail : Settles X rows rs := by
      refine hs.tail (fun b hb => .inl hb) (List.Subset.refl _) ?_
      rw [← hg]
      exact List.mem_map_of_mem (mem_of_lastSnapshotRow hm).1
    refine List.forall_mem_cons.2 ⟨⟨m, h.keeps_last hm fun r' hr' hn => ?_, hg⟩, ih htail⟩
    exact (hs.single r' (.tail _ hr') r (.head _) hn).trans hg.symm
  | @inserted r rs rows rows' row hn hg ht hnew h ih =>
    have hlast : Sql.lastSnapshotRow (rows ++ [row]) r.object.noradCatId = some row := by
      rw [← hn]
      refine lastSnapshotRow_append_of_lt fun b hb hbn => ?_
      exact hs.later [] r rs rfl (hg ▸ hnew) (List.not_mem_nil) b hb (hbn.trans hn) row.epoch ht
    have htail : Settles X (rows ++ [row]) rs := by
      refine hs.tail (fun b hb => ?_) ?_ ?_
      · rcases List.mem_append.1 hb with hb | hb
        · exact .inl hb
        · rw [List.mem_singleton.1 hb]
          exact .inr hn
      · rw [List.map_append]
        exact List.subset_append_left _ _
      · rw [← hg]
        exact List.mem_map_of_mem (List.mem_append_right _ (.head _))
    refine List.forall_mem_cons.2 ⟨⟨row, h.keeps_last hlast fun r' hr' hn => ?_, hg⟩, ih htail⟩
    exact (hs.single r' (.tail _ hr') r (.head _) hn).trans hg.symm

/-- A new row whose record is repeated by the rows at the end is later than all of its object: a
snapshot that is not earlier would keep it from ever being the last. -/
theorem Taken.earlier {row : SnapshotRow} (h : Taken X rs (rows ++ [row]) rows')
    (hg : row.gpId = r.snapshot.gpId) (hnew : r.snapshot.gpId ∉ rows.map (·.gpId))
    (hrep : Repeats rows' r) :
    ∀ b ∈ rows, b.noradCatId = r.object.noradCatId → b.epoch < row.epoch := by
  intro b hb hbn
  by_contra hlt
  obtain ⟨m, hm⟩ : ∃ m, Sql.lastSnapshotRow rows r.object.noradCatId = some m := by
    cases hlast : Sql.lastSnapshotRow rows r.object.noradCatId with
    | none => exact absurd hbn (lastSnapshotRow_eq_none.1 hlast b hb)
    | some m => exact ⟨m, rfl⟩
  have hkeep : Sql.lastSnapshotRow (rows ++ [row]) r.object.noradCatId = some m :=
    lastSnapshotRow_append_of_le hm ((not_lt.1 hlt).trans (lastSnapshotRow_le hm b hb hbn))
  obtain ⟨m', hm', hg'⟩ := hrep
  rcases h.last r.object.noradCatId with hlast | ⟨m₂, hm₂, hmem⟩
  · rw [hm', hkeep] at hlast
    cases hlast
    exact hnew (hg' ▸ List.mem_map_of_mem (mem_of_lastSnapshotRow hm).1)
  · rw [hm'] at hm₂
    cases hm₂
    refine hmem ?_
    rw [hg', ← hg]
    exact List.mem_map_of_mem (List.mem_append_right _ (.head _))

/-- A new record that is repeated by the rows at the end was later than all of its object. -/
theorem Taken.later (h : Taken X rs rows rows') (hrep : ∀ r ∈ rs, Repeats rows' r) :
    ∀ pre r post, rs = pre ++ r :: post → r.snapshot.gpId ∉ rows.map (·.gpId) →
      r.snapshot.gpId ∉ pre.map (·.snapshot.gpId) →
      ∀ row ∈ rows, row.noradCatId = r.object.noradCatId →
        ∀ t ∈ X.timestampIn r.snapshot.epoch, row.epoch < t := by
  induction h with
  | nil rows =>
    intro pre r post heq
    exact absurd heq.symm (List.append_ne_nil_of_right_ne_nil _ (List.cons_ne_nil _ _))
  | @unchanged r rs rows rows' m hm hg h ih =>
    intro pre r' post heq hnew hpre b hb hbn t ht
    cases pre with
    | nil =>
      cases heq
      refine absurd ?_ hnew
      rw [← hg]
      exact List.mem_map_of_mem (mem_of_lastSnapshotRow hm).1
    | cons a pre =>
      cases heq
      rw [List.map_cons, List.mem_cons, not_or] at hpre
      exact ih (fun q hq => hrep q (.tail _ hq)) pre r' post rfl hnew hpre.2 b hb hbn t ht
  | @inserted r rs rows rows' row hn hg hep hnew₁ h ih =>
    intro pre r' post heq hnew hpre b hb hbn t ht
    cases pre with
    | nil =>
      cases heq
      cases hep.symm.trans ht
      exact h.earlier hg hnew (hrep r (.head _)) b hb hbn
    | cons a pre =>
      cases heq
      rw [List.map_cons, List.mem_cons, not_or] at hpre
      refine ih (fun q hq => hrep q (.tail _ hq)) pre r' post rfl ?_ hpre.2 b
        (List.mem_append_left _ hb) hbn t ht
      rw [List.map_append, List.map_singleton, List.mem_append, List.mem_singleton, not_or, hg]
      exact ⟨hnew, hpre.1⟩

/-- When no record failed, the rows repeat every record exactly when the response settles. -/
theorem Taken.repeats_iff (h : Taken X rs rows rows') :
    (∀ r ∈ rs, Repeats rows' r) ↔ Settles X rows rs := by
  refine ⟨fun hrep => ⟨fun a ha b hb hab => ?_, h.later hrep⟩, h.repeats⟩
  obtain ⟨m, hm, hg⟩ := hrep a ha
  obtain ⟨m', hm', hg'⟩ := hrep b hb
  rw [hab, hm'] at hm
  cases hm
  exact hg.symm.trans hg'

end

/-! ## The loop over the records -/

/-- What a response reports and records. -/
def Session.reported (s : Session) : List SnapshotRow × List EventRow × Counts :=
  (s.db.snapshots, s.db.audtEvents, s.counts)

/-- The process after some records that were all repeated. -/
def Session.repeated (n : Nat) (s : Session) : Session :=
  { s with
    used := s.used + n
    counts := { s.counts with unchanged := s.counts.unchanged + n } }

section
variable {X : Externals} {r : GpRecord} {rs : List GpRecord} {s s' : Session}

/-- A transaction does not touch the counters. -/
theorem transaction_keeps {γ : Type} (f : Counts → γ)
    (body : Call → Database → Except Exn (α × Database)) :
    Proc.Within (Proc.Keeps fun s => f s.counts) (transaction body) :=
  transaction_within (fun _ => rfl) fun _ _ _ _ => rfl

/-- After its lookup a record that is not repeated counts what it inserted and nothing else. -/
theorem insertSnapshot_keeps {γ : Type} (f : Counts → γ)
    (hf : ∀ c n, f { c with inserted := n } = f c) (prev : Option Snapshot) :
    Proc.Within (Proc.Keeps fun s => f s.counts) (do
      let newSnapshotId ← DbWriter.insertSnapshot X r.snapshot
      GpPoller.countInserted
      GpPoller.recordPair r prev newSnapshotId) := by
  refine (transaction_keeps f _).bind fun id =>
    Proc.Within.bind (Proc.Within.modify fun s => hf s.counts _) fun _ => ?_
  cases prev with
  | none => exact .pure _
  | some p => exact Proc.Within.forEach fun e _ => transaction_keeps f _

/-- Storing a record counts no error: an error leaves it. -/
theorem storeRecord_errors (X : Externals) (r : GpRecord) :
    Proc.Within (Proc.Keeps fun s => s.counts.error) (GpPoller.storeRecord X r) := by
  have hlast : Proc.Within (Proc.Keeps fun s => s.counts.error)
      (DbWriter.getLastSnapshot X r.object.noradCatId) := transaction_keeps Counts.error _
  refine hlast.bind fun prev => ?_
  split
  · exact Proc.Within.modify fun _ => rfl
  · exact insertSnapshot_keeps Counts.error (fun _ _ => rfl) prev

/-- The turn of a record counts its errors, and takes none back. -/
theorem processRecord_errors (X : Externals) (r : GpRecord) :
    Proc.Within (Proc.Counts (·.counts.error)) (GpPoller.processRecord X r) := by
  refine Proc.Within.attempt (fun s => (storeRecord_errors X r s).ge) fun e => ?_
  refine Proc.Within.bind (Proc.Within.modify fun s => ?_) fun _ => Proc.Within.modify fun s => ?_
  · exact Nat.le_succ s.counts.error
  · exact Nat.le_refl s.counts.error

/-- A turn that counts no error was not interrupted. -/
theorem storeRecord_of_no_error (h : GpPoller.processRecord X r s = (.ok (), s'))
    (herr : s'.counts.error ≤ s.counts.error) : GpPoller.storeRecord X r s = (.ok (), s') := by
  have hkeep := storeRecord_errors X r s
  rw [GpPoller.processRecord, Proc.attempt_run] at h
  rcases hs : GpPoller.storeRecord X r s with ⟨_ | e | _, s₁⟩ <;> rw [hs] at h hkeep
  · exact h
  · cases h
    have hlt : s₁.counts.error + 1 ≤ s.counts.error := herr
    have heq : s₁.counts.error = s.counts.error := hkeep
    omega
  · cases h

/-- A record that is handled repeats the last snapshot of its object or is stored. -/
theorem storeRecord_ok (h : GpPoller.storeRecord X r s = (.ok (), s')) :
    Repeats s.db.snapshots r ∧ s'.db = s.db ∨ ∃ row, Stores X r s row := by
  obtain ⟨prev, s₁, hq, h⟩ := Proc.bind_eq_ok.1 h
  obtain ⟨hf, rfl, rfl⟩ := query_eq_ok.1 hq
  split at h
  · next hany =>
    cases h
    exact .inl ⟨getLastSnapshot_any.1 hany, rfl⟩
  · next hany =>
    obtain ⟨id, s₂, hi, -⟩ := Proc.bind_eq_ok.1 h
    obtain ⟨hf', db', hb', -⟩ := transaction_eq_ok.1 hi
    obtain ⟨row, hrow, -, hal, -⟩ := Sql.insertSnapshot_ok.1 hb'
    exact .inr ⟨row, hf, Bool.eq_false_iff.2 hany, hf', hrow, hal⟩

/-- A loop that counts no error takes every record. -/
theorem processRecords_taken (h : Proc.forEach (GpPoller.processRecord X) rs s = (.ok (), s'))
    (herr : s'.counts.error ≤ s.counts.error) : Taken X rs s.db.snapshots s'.db.snapshots := by
  induction rs generalizing s with
  | nil =>
    cases h
    exact .nil _
  | cons r rs ih =>
    obtain ⟨_, s₁, h₁, h₂⟩ := Proc.bind_eq_ok.1 h
    have hfirst := processRecord_errors X r s
    have hrest := (Proc.Within.forEach fun r _ => processRecord_errors X r :
      Proc.Within _ (Proc.forEach (GpPoller.processRecord X) rs)) s₁
    rw [h₁] at hfirst
    rw [h₂] at hrest
    have hfirst' : s.counts.error ≤ s₁.counts.error := hfirst
    have hrest' : s₁.counts.error ≤ s'.counts.error := hrest
    have htail : Taken X rs s₁.db.snapshots s'.db.snapshots := ih h₂ (by omega)
    have hstore := storeRecord_of_no_error h₁ (by omega)
    rcases storeRecord_ok hstore with ⟨⟨m, hm, hg⟩, hdb⟩ | ⟨row, hrow⟩
    · rw [hdb] at htail
      exact .unchanged hm hg htail
    · obtain ⟨k, -, hev, -⟩ := storeRecord_stores hrow
      rw [hstore] at hev
      obtain ⟨-, hn, hg⟩ := SnapshotRow.ofSnapshot_ok hrow.columns
      refine .inserted (hn.trans r.noradCatId_eq) hg (SnapshotRow.ofSnapshot_epoch hrow.columns)
        hrow.allowed.2.1 ?_
      rwa [hev.snapshots] at htail

/-- A turn counts its record as unchanged when the lookup goes through and the record is repeated,
and then does nothing else. -/
theorem processRecord_unchanged (X : Externals) (r : GpRecord) (s : Session) :
    (s.call.fault = .none ∧ Repeats s.db.snapshots r) ∧
        GpPoller.processRecord X r s = (.ok (), s.repeated 1) ∨
      ¬ (s.call.fault = .none ∧ Repeats s.db.snapshots r) ∧
        (GpPoller.processRecord X r s).2.counts.unchanged = s.counts.unchanged := by
  by_cases h : s.call.fault = .none ∧ Repeats s.db.snapshots r
  · refine .inl ⟨h, ?_⟩
    obtain ⟨hf, hrep⟩ := h
    rw [GpPoller.processRecord, Proc.attempt_run, GpPoller.storeRecord, DbWriter.getLastSnapshot,
      Proc.bind_ok (query_run _ hf), if_pos (getLastSnapshot_any.2 hrep)]
    rfl
  · refine .inr ⟨h, ?_⟩
    have hstore : (GpPoller.storeRecord X r s).2.counts.unchanged = s.counts.unchanged := by
      have hlast : Proc.Within (Proc.Keeps fun s => s.counts.unchanged)
          (DbWriter.getLastSnapshot X r.object.noradCatId) := transaction_keeps Counts.unchanged _
      have hlast' := hlast s
      rw [GpPoller.storeRecord, Proc.bind_run]
      rcases hq : DbWriter.getLastSnapshot X r.object.noradCatId s with ⟨prev | e | _, s₁⟩ <;>
        rw [hq] at hlast'
      · obtain ⟨hf, rfl, rfl⟩ := query_eq_ok.1 hq
        dsimp only
        rw [if_neg fun hany => h ⟨hf, getLastSnapshot_any.1 hany⟩]
        exact insertSnapshot_keeps Counts.unchanged (fun _ _ => rfl) _ s.next
      · exact hlast'
      · exact hlast'
    rw [GpPoller.processRecord, Proc.attempt_run]
    rcases hs : GpPoller.storeRecord X r s with ⟨_ | e | _, s₁⟩ <;> rw [hs] at hstore <;>
      exact hstore

/-- A loop whose records are all repeated only counts them. -/
theorem processRecords_repeated (hrep : ∀ r ∈ rs, Repeats s.db.snapshots r)
    (hf : ∀ i < rs.length, (s.env (s.used + i)).fault = .none) :
    Proc.forEach (GpPoller.processRecord X) rs s = (.ok (), s.repeated rs.length) := by
  induction rs generalizing s with
  | nil => rfl
  | cons r rs ih =>
    obtain ⟨hr, hrs⟩ := List.forall_mem_cons.1 hrep
    have hrun : GpPoller.processRecord X r s = (.ok (), s.repeated 1) := by
      rcases processRecord_unchanged X r s with ⟨-, hrun⟩ | ⟨hn, -⟩
      · exact hrun
      · exact absurd ⟨hf 0 (Nat.succ_pos _), hr⟩ hn
    rw [Proc.forEach_cons, Proc.bind_ok hrun, @ih (s.repeated 1) hrs fun i hi => ?_]
    · simp only [Session.repeated, List.length_cons, Nat.add_assoc, Nat.add_comm 1]
    · have hi' := hf (i + 1) (Nat.succ_lt_succ hi)
      rwa [Nat.add_comm i 1, ← Nat.add_assoc] at hi'

/-- A loop that counts every record as unchanged found all of them repeated, and its lookups went
through. -/
theorem processRecords_unchanged (X : Externals) (rs : List GpRecord) (s : Session) :
    ((∀ r ∈ rs, Repeats s.db.snapshots r) ∧
        ∀ i < rs.length, (s.env (s.used + i)).fault = .none) ∨
      (Proc.forEach (GpPoller.processRecord X) rs s).2.counts.unchanged <
        s.counts.unchanged + rs.length := by
  induction rs generalizing s with
  | nil => exact .inl ⟨List.forall_mem_nil _, nofun⟩
  | cons r rs ih =>
    rw [Proc.forEach_cons, List.length_cons]
    rcases processRecord_unchanged X r s with ⟨⟨hf, hrep⟩, hrun⟩ | ⟨-, hcount⟩
    · rw [Proc.bind_ok hrun]
      rcases ih (s.repeated 1) with ⟨hreps, hfs⟩ | hlt
      · refine .inl ⟨List.forall_mem_cons.2 ⟨hrep, hreps⟩, fun i hi => ?_⟩
        cases i with
        | zero => exact hf
        | succ i =>
          have hi' := hfs i (Nat.lt_of_succ_lt_succ hi)
          rwa [Nat.add_comm i 1, ← Nat.add_assoc]
      · right
        have hone : (s.repeated 1).counts.unchanged = s.counts.unchanged + 1 := rfl
        omega
    · -- the turn counted nothing, and the rest counts at most its records
      right
      rw [Proc.bind_run]
      rcases hrun : GpPoller.processRecord X r s with ⟨_ | e | _, s₁⟩ <;> rw [hrun] at hcount <;>
        dsimp only at hcount ⊢
      · rcases ih s₁ with ⟨hreps, hfs⟩ | hlt
        · rw [processRecords_repeated hreps hfs]
          show s₁.counts.unchanged + rs.length < _
          omega
        · omega
      · omega
      · omega

end

/-! ## A whole response -/

/-- The loop over the records comes to its end, and no record failed. -/
structure Handles (X : Externals) (body : String) (s : Session) (records : List GpRecord) :
    Prop where
  parsed : parseGpResponse X body = .ok records
  clean : ∃ t, Proc.forEach (GpPoller.processRecord X) records { s with counts := {} } =
      (.ok (), t) ∧
    t.counts.error = 0

/-- The response changes nothing and counts every record as unchanged. -/
structure Noop (X : Externals) (rot : List Int) (body : String) (records : List GpRecord)
    (s : Session) : Prop where
  snapshots : (GpPoller.processResponse X rot body s).2.db.snapshots = s.db.snapshots
  audtEvents : (GpPoller.processResponse X rot body s).2.db.audtEvents = s.db.audtEvents
  counts : (GpPoller.processResponse X rot body s).2.counts = ⟨0, records.length, 0⟩

/-- Whatever response was handled without an error is a no-op when it comes again and no call
fails. -/
def RedeliveryNoop (X : Externals) : Prop :=
  ∀ rot rot' body s s' records, Reachable X s.db → Handles X body s records →
    s'.db = (GpPoller.processResponse X rot body s).2.db → Calm s'.env →
    Noop X rot' body records s'

section
variable {X : Externals} {rot rot' : List Int} {body : String} {records : List GpRecord}
  {s s' : Session}

/-- The cursor is neither recorded nor counted. -/
theorem advanceCursor_reported (rot : List Int) :
    Proc.Within (Proc.Keeps Session.reported) (GpPoller.advanceCursor rot) := by
  rw [GpPoller.advanceCursor]
  split
  · refine transaction_within (fun _ => rfl) fun s a db h => ?_
    obtain ⟨-, h'⟩ := Sql.advanceGpRotationCursor_ok.1 (map_unit_ok.1 h)
    cases h'
    rfl
  · exact .pure _

/-- What a response reports and records is what its loop does. -/
theorem processResponse_reported (h : parseGpResponse X body = .ok records) (rot : List Int)
    (s : Session) : (GpPoller.processResponse X rot body s).2.reported =
      (Proc.forEach (GpPoller.processRecord X) records { s with counts := {} }).2.reported := by
  rw [GpPoller.processResponse, h, Proc.ofExcept_ok, pure_bind, Proc.bind_ok (Proc.modify_run _ s),
    Proc.bind_run]
  rcases Proc.forEach (GpPoller.processRecord X) records { s with counts := {} }
    with ⟨_ | e | _, t⟩
  · exact advanceCursor_reported rot t
  · rfl
  · rfl

/-- A response is a no-op exactly when the rows it finds repeat all its records and its lookups go
through. -/
theorem noop_iff (h : parseGpResponse X body = .ok records) : Noop X rot body records s ↔
    (∀ r ∈ records, Repeats s.db.snapshots r) ∧
      ∀ i < records.length, (s.env (s.used + i)).fault = .none := by
  have hrep := processResponse_reported h rot s
  refine ⟨fun hnoop => ?_, fun ⟨hreps, hfs⟩ => ?_⟩
  · rcases processRecords_unchanged X records { s with counts := {} } with hall | hlt
    · exact hall
    · have hcounts : (Proc.forEach (GpPoller.processRecord X) records
          { s with counts := {} }).2.counts = ⟨0, records.length, 0⟩ :=
        (congrArg (fun p => p.2.2) hrep).symm.trans hnoop.counts
      have hall : _ = records.length := congrArg Counts.unchanged hcounts
      have hzero : ({ s with counts := {} } : Session).counts.unchanged = 0 := rfl
      omega
  · rw [@processRecords_repeated X records { s with counts := {} } hreps hfs] at hrep
    refine ⟨congrArg Prod.fst hrep, congrArg (fun p => p.2.1) hrep, ?_⟩
    refine (congrArg (fun p => p.2.2) hrep).trans ?_
    show (⟨0, 0 + records.length, 0⟩ : Counts) = _
    rw [Nat.zero_add]

/-- A response that was handled without an error is a no-op when it comes again exactly when it
settles and the lookups of its second run go through. -/
theorem redelivery_noop_iff (h : Handles X body s records)
    (hdb : s'.db = (GpPoller.processResponse X rot body s).2.db) :
    Noop X rot' body records s' ↔ Settles X s.db.snapshots records ∧
      ∀ i < records.length, (s'.env (s'.used + i)).fault = .none := by
  obtain ⟨t, ht, herr⟩ := h.clean
  have hrows : s'.db.snapshots = t.db.snapshots := by
    have hrep := processResponse_reported h.parsed rot s
    rw [ht] at hrep
    rw [hdb]
    exact congrArg Prod.fst hrep
  have htaken : Taken X records s.db.snapshots t.db.snapshots :=
    @processRecords_taken X records { s with counts := {} } t ht (Nat.le_of_eq herr)
  rw [noop_iff h.parsed, hrows, htaken.repeats_iff]

end

namespace ReplayFixture

open RedeliveryFixture (entry record)

/-- The catalogue of Space-Track: one object. -/
def listing : String := "[\x7b\"NORAD_CAT_ID\":\"5\"\x7d]"

/-- An element set of the object. -/
def newest : String := "[\x7b\"GP_ID\":\"100\"\x7d]"

/-- A later one, with an epoch that is a day earlier. -/
def reissue : String := "[\x7b\"GP_ID\":\"101\"\x7d]"

/-- The three bodies are parsed, and both epochs are converted. -/
def externals : Externals :=
  .ofTables
    [(listing, .arr [.obj [("NORAD_CAT_ID", .str "5")]]),
      (newest, .arr [entry "100" "2026-08-23" "10"]),
      (reissue, .arr [entry "101" "2026-08-22" "11"])]
    [] [("2026-08-22", 0), ("2026-08-23", 1)]

/-- The tables with the first element set. -/
def stored : Database :=
  (GpPoller.processResponse externals [] newest
    (.start (catalogued externals listing) (calmEnv 0 newest))).2.db

/-- The tables with the first element set come from empty ones by two responses. -/
theorem stored_reachable : Reachable externals stored :=
  Reachable.gp_processResponse (s := .start (catalogued externals listing) (calmEnv 0 newest))
    (catalogued_reachable externals listing) [] newest

/-- A process that receives the second element set. -/
def start : Session := .start stored (calmEnv 0 reissue)

/-- A process that receives it again. -/
def again : Session :=
  .start (GpPoller.processResponse externals [] reissue start).2.db (calmEnv 0 reissue)

/-- The process that receives the second element set stores it without an error. -/
theorem handles : Handles externals reissue start [record 101 "2026-08-22" 11] where
  parsed := by decide +kernel
  clean := ⟨_, Prod.ext (by decide +kernel) rfl, by decide +kernel⟩

/-- Received once more, it counts as an error. -/
theorem again_counts :
    (GpPoller.processResponse externals [] reissue again).2.counts = ⟨0, 0, 1⟩ := by
  decide +kernel

end ReplayFixture

open ReplayFixture in
open RedeliveryFixture (record) in
/-- So it is no no-op, and does not settle: its epoch is not the latest. -/
theorem redelivery_noop_iff_reissue :
    Noop externals [] reissue [record 101 "2026-08-22" 11] again ↔
      Settles externals start.db.snapshots [record 101 "2026-08-22" 11] ∧
        ∀ i < [record 101 "2026-08-22" 11].length, (again.env (again.used + i)).fault = .none :=
  redelivery_noop_iff handles
    (rfl : again.db = (GpPoller.processResponse externals [] reissue start).2.db)

open ReplayFixture in
/-- An element set that is issued later for an earlier epoch is stored behind the last snapshot, and
the next time it is refused. -/
theorem not_redeliveryNoop : ¬ RedeliveryNoop externals := by
  intro h
  have hcounts := (h [] [] reissue start again _ stored_reachable handles rfl
    (calmEnv_calm 0 reissue)).counts
  rw [again_counts] at hcounts
  exact absurd hcounts (by decide)

end VitaleBackend
