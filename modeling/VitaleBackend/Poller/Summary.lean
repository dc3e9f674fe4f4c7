import VitaleBackend.Poller.Audit

/-!
# The summary of a GP response

The counters of `process_response` count what becomes of the records: each is inserted, or found
unchanged, or fails, and one that is inserted can still fail with its events. The line that has them
is true of the tables and of the lines before it (`summary_true`).
-/

namespace VitaleBackend

open Process

/-- What some records became: so many were inserted, found unchanged and failed. -/
structure Takes (inserted unchanged error : ℕ) (s t : Session) : Prop where
  snapshots : ∃ new, t.db.snapshots = s.db.snapshots ++ new ∧ new.length = inserted
  counts : t.counts =
    ⟨s.counts.inserted + inserted, s.counts.unchanged + unchanged, s.counts.error + error⟩

/-- Work that keeps the snapshots and the counters takes nothing. -/
theorem Takes.of_keeps {s t : Session} (hsnapshots : t.db.snapshots = s.db.snapshots)
    (hcounts : t.counts = s.counts) : Takes 0 0 0 s t :=
  ⟨⟨[], by rw [hsnapshots, List.append_nil], rfl⟩, hcounts⟩

/-- What is taken in a row adds up. -/
theorem Takes.trans {i u e i' u' e' : ℕ} {s t r : Session} (h : Takes i u e s t)
    (h' : Takes i' u' e' t r) : Takes (i + i') (u + u') (e + e') s r := by
  obtain ⟨new, hnew, hlen⟩ := h.snapshots
  obtain ⟨new', hnew', hlen'⟩ := h'.snapshots
  refine ⟨⟨new ++ new', by rw [hnew', hnew, List.append_assoc], ?_⟩, ?_⟩
  · rw [List.length_append, hlen, hlen']
  · rw [h'.counts, h.counts]
    simp only [Nat.add_assoc]

/-- What a process does to the snapshots and the counters. -/
def KeepsTally (s t : Session) : Prop := t.db.snapshots = s.db.snapshots ∧ t.counts = s.counts

/-- What is not touched is kept. -/
instance : Std.Refl KeepsTally := ⟨fun _ => ⟨rfl, rfl⟩⟩

/-- What two jobs in a row keep is kept. -/
instance : IsTrans Session KeepsTally :=
  ⟨fun _ _ _ h h' => ⟨h'.1.trans h.1, h'.2.trans h.2⟩⟩

namespace GpPoller

/-- The events of a pair are written to another table, and counted nowhere. -/
theorem recordPair_keepsTally (r : GpRecord) (prev : Option Snapshot) (newSnapshotId : Nat) :
    Proc.Within KeepsTally (recordPair r prev newSnapshotId) := by
  cases prev with
  | none => exact .pure _
  | some p =>
    refine Proc.Within.forEach fun event _ => transaction_within (fun _ => ⟨rfl, rfl⟩)
      fun s a db h => ?_
    obtain ⟨hallowed, rfl⟩ := Sql.insertEvent_ok.1 (map_unit_ok.1 h)
    exact ⟨rfl, rfl⟩

/-- A record is found unchanged or inserted, unless it fails before that. -/
theorem storeRecord_takes (X : Externals) (r : GpRecord) (s : Session) :
    ∃ i u, Takes i u 0 s (storeRecord X r s).2 ∧ i + u ≤ 1 ∧
      ((storeRecord X r s).1 = .ok () → i + u = 1) := by
  unfold storeRecord
  rw [Proc.bind_run]
  rcases transaction_cases (fun call db => .ok ((fun _ db => Sql.getLastSnapshot X
    r.object.noradCatId db) call db, db)) s with ⟨hf, prev, db, hb, hq⟩ | ⟨-, e, hq⟩ | ⟨-, hq⟩
  · cases hb
    rw [DbWriter.getLastSnapshot, query, hq]
    dsimp only
    split
    · exact ⟨0, 1, ⟨⟨[], (List.append_nil _).symm, rfl⟩, rfl⟩, le_rfl, fun _ => rfl⟩
    · rw [Proc.bind_run]
      rcases transaction_cases (fun call db => Sql.insertSnapshot X call r.snapshot db)
        { s.next with db := s.db } with ⟨-, id, db, hb, hq⟩ | ⟨-, e, hq⟩ | ⟨-, hq⟩
      · obtain ⟨row, -, -, hallowed, rfl⟩ := Sql.insertSnapshot_ok.1 hb
        rw [DbWriter.insertSnapshot, hq]
        obtain ⟨hsnapshots, hcounts⟩ := recordPair_keepsTally r
          (Sql.getLastSnapshot X r.object.noradCatId s.db) id
          { s.next.next with
            db := s.db.addSnapshot row hallowed
            counts := { s.counts with inserted := s.counts.inserted + 1 } }
        exact ⟨1, 0, ⟨⟨[row], hsnapshots, rfl⟩, hcounts⟩, le_rfl, fun _ => rfl⟩
      · rw [DbWriter.insertSnapshot, hq]
        exact ⟨0, 0, .of_keeps rfl rfl, Nat.zero_le 1, nofun⟩
      · rw [DbWriter.insertSnapshot, hq]
        exact ⟨0, 0, .of_keeps rfl rfl, Nat.zero_le 1, nofun⟩
  · rw [DbWriter.getLastSnapshot, query, hq]
    exact ⟨0, 0, .of_keeps rfl rfl, Nat.zero_le 1, nofun⟩
  · rw [DbWriter.getLastSnapshot, query, hq]
    exact ⟨0, 0, .of_keeps rfl rfl, Nat.zero_le 1, nofun⟩

/-- A record is inserted, unchanged, failed, or inserted and failed, and none of it when the process
is stopped. -/
theorem processRecord_takes (X : Externals) (r : GpRecord) (s : Session) :
    ∃ i u e, Takes i u e s (processRecord X r s).2 ∧ i + u ≤ 1 ∧
      ((processRecord X r s).1 = .ok () → 1 ≤ i + u + e) := by
  obtain ⟨i, u, htakes, hle, hok⟩ := storeRecord_takes X r s
  unfold processRecord
  rw [Proc.attempt_run]
  rcases hrun : storeRecord X r s with ⟨a | e | _, t⟩ <;> rw [hrun] at htakes hok
  · exact ⟨i, u, 0, htakes, hle, fun _ => (hok rfl).ge⟩
  · refine ⟨i, u, 1, ⟨htakes.snapshots, ?_⟩, hle, fun _ => Nat.le_add_left _ _⟩
    show { t.counts with error := t.counts.error + 1 } = _
    rw [htakes.counts]
    rfl
  · exact ⟨i, u, 0, htakes, hle, nofun⟩

/-- The counters after the loop, and after a loop that ends by itself. -/
theorem processRecords_takes (X : Externals) (rs : List GpRecord) (s : Session) :
    ∃ i u e, Takes i u e s (Proc.forEach (processRecord X) rs s).2 ∧ i + u ≤ rs.length ∧
      ((Proc.forEach (processRecord X) rs s).1 = .ok () → rs.length ≤ i + u + e) := by
  induction rs generalizing s with
  | nil => exact ⟨0, 0, 0, .of_keeps rfl rfl, le_rfl, fun _ => le_rfl⟩
  | cons r rs ih =>
    obtain ⟨i, u, e, htakes, hle, hok⟩ := processRecord_takes X r s
    rw [Proc.forEach_cons, Proc.bind_run, List.length_cons]
    rcases hrun : processRecord X r s with ⟨a | x | _, t⟩ <;> rw [hrun] at htakes hok
    · obtain ⟨i', u', e', htakes', hle', hok'⟩ := ih t
      refine ⟨i + i', u + u', e + e', htakes.trans htakes', by omega, fun h => ?_⟩
      have hfirst := hok rfl
      have hrest := hok' h
      omega
    · exact ⟨i, u, e, htakes, by omega, nofun⟩
    · exact ⟨i, u, e, htakes, by omega, nofun⟩

end GpPoller

/-! ## The lines about records that failed -/

/-- The lines about records that failed are as many as the counter says, and none is a summary. -/
structure Failures (s t : Session) (journal : List Message) : Prop where
  error : t.counts.error = s.counts.error + (journal.filterMap Message.failed?).length
  summary : journal.filterMap Message.summary? = []

/-- Lines and counts add up over two jobs in a row. -/
theorem failures_composes : Proc.Composes Failures where
  refl _ := ⟨rfl, rfl⟩
  trans h h' := by
    constructor
    · rw [h'.error, h.error, List.filterMap_append, List.length_append, Nat.add_assoc]
    · rw [List.filterMap_append, h.summary, h'.summary, List.append_nil]

/-- Nothing printed and nothing counted. -/
instance : Std.Refl (Proc.Wrote Failures) := failures_composes.refl_wrote

/-- Jobs in a row print and count in a row. -/
instance : IsTrans (Session × List Message) (Proc.Wrote Failures) := failures_composes.trans_wrote

namespace Logged

/-- A job without lines that counts no error. -/
theorem silent_failures {m : Job α} (h : Proc.Within (Proc.Keeps (·.counts.error)) m) :
    Proc.Within (Proc.Wrote Failures) (Proc.silent m) :=
  h.silent fun _ _ hkeeps => ⟨hkeeps, rfl⟩

/-- A line that is neither a summary nor about a record that failed. -/
theorem cout_failures {m : Message} (hfailed : m.failed? = none) (hsummary : m.summary? = none) :
    Proc.Within (Proc.Wrote Failures) (cout m) :=
  .tell fun s => ⟨by simp [hfailed], by simp [hsummary]⟩

/-- Storing a record prints the lines of its events, and counts no error. -/
theorem storeRecord_failures (X : Externals) (r : GpRecord) :
    Proc.Within (Proc.Wrote Failures) (storeRecord X r) := by
  have htransaction : ∀ {α : Type} (body : Call → Database → Except Exn (α × Database)),
      Proc.Within (Proc.Wrote Failures) (Proc.silent (transaction body)) := fun body =>
    silent_failures (transaction_within (fun _ => rfl) fun _ _ _ _ => rfl)
  refine (htransaction _).bind fun prev => ?_
  split
  · exact silent_failures fun _ => rfl
  · refine (htransaction _).bind fun id => (silent_failures fun _ => by exact rfl).bind fun _ => ?_
    cases prev with
    | none => exact .pure _
    | some p =>
      exact Proc.Within.forEach fun event _ => (htransaction _).bind fun _ => cout_failures rfl rfl

/-- A record that fails gets its line and is counted. -/
theorem processRecord_failures (X : Externals) (r : GpRecord) :
    Proc.Within (Proc.Wrote Failures) (processRecord X r) := by
  refine (storeRecord_failures X r).attempt fun e p => ?_
  exact ⟨[_], rfl, rfl, rfl⟩

end Logged

/-! ## The summary -/

/-- A summary in the journal is true of the tables and of the lines about records that failed. Every
record is in one of its numbers, and only one that was inserted can be in two. -/
def Summed (before after : Database) (journal : List Message) : Prop :=
  ∀ records counts, (records, counts) ∈ journal.filterMap Message.summary? →
    (∃ new, after.snapshots = before.snapshots ++ new ∧ new.length = counts.inserted) ∧
      (journal.filterMap Message.failed?).length = counts.error ∧
      counts.inserted + counts.unchanged ≤ records ∧
      records ≤ counts.inserted + counts.unchanged + counts.error

/-- The tables keep the snapshots, and neither a summary is printed nor that a record failed. -/
structure Unsummed (before after : Database) (journal : List Message) : Prop where
  snapshots : after.snapshots = before.snapshots
  failed : journal.filterMap Message.failed? = []
  summary : journal.filterMap Message.summary? = []

/-- Two jobs that are unsummed are so in a row. -/
theorem Unsummed.trans {a b c : Database} {journal journal' : List Message}
    (h : Unsummed a b journal) (h' : Unsummed b c journal') :
    Unsummed a c (journal ++ journal') := by
  refine ⟨h'.snapshots.trans h.snapshots, ?_, ?_⟩
  · rw [List.filterMap_append, h.failed, h'.failed, List.append_nil]
  · rw [List.filterMap_append, h.summary, h'.summary, List.append_nil]

/-- An unsummed job before a summary leaves it true. -/
theorem Summed.before {a b c : Database} {journal journal' : List Message}
    (h : Unsummed a b journal) (h' : Summed b c journal') : Summed a c (journal ++ journal') := by
  intro records counts hmem
  rw [List.filterMap_append, h.summary, List.nil_append] at hmem
  have hsummed := h' records counts hmem
  rwa [← h.snapshots, List.filterMap_append, h.failed, List.nil_append]

/-- An unsummed job behind a summary leaves it true. -/
theorem Summed.after {a b c : Database} {journal journal' : List Message} (h : Summed a b journal)
    (h' : Unsummed b c journal') : Summed a c (journal ++ journal') := by
  intro records counts hmem
  rw [List.filterMap_append, h'.summary, List.append_nil] at hmem
  have hsummed := h records counts hmem
  rwa [h'.snapshots, List.filterMap_append, h'.failed, List.append_nil]

/-- Without a summary nothing is claimed. -/
theorem Summed.of_none {a b : Database} {journal : List Message}
    (h : journal.filterMap Message.summary? = []) : Summed a b journal := by
  intro records counts hmem
  rw [h] at hmem
  cases hmem

/-- What a job that prints does when no summary is due. -/
abbrev UnsummedRun : Session × List Message → Session × List Message → Prop := Prints Unsummed

/-- What a job that prints does when a summary is due. -/
abbrev SummedRun : Session × List Message → Session × List Message → Prop := Prints Summed

/-- Such jobs may be done in a row, so that the frame rules of a journal apply to them. -/
theorem unsummed_composes : Proc.Composes fun s t : Session => Unsummed s.db t.db :=
  ⟨fun _ => ⟨rfl, rfl, rfl⟩, fun h h' => h.trans h'⟩

/-- Doing nothing is such a job. -/
instance : Std.Refl UnsummedRun := unsummed_composes.refl_wrote

/-- Jobs in a row are such a job. -/
instance : IsTrans (Session × List Message) UnsummedRun := unsummed_composes.trans_wrote

/-- The lines about logins, requests and stamps are neither summaries nor about records. -/
theorem unsummed_frame : LogFrame Unsummed where
  refl _ := ⟨rfl, rfl, rfl⟩
  other m h db := ⟨rfl, by simp [h.failed], by simp [h.summary]⟩
  stamp pollerName now db := ⟨rfl, rfl, rfl⟩

section
variable {p q r : Session × List Message}

/-- A job that is unsummed claims nothing. -/
theorem UnsummedRun.summed (h : UnsummedRun p q) : SummedRun p q := by
  obtain ⟨more, hmore, hunsummed⟩ := h
  exact ⟨more, hmore, .of_none hunsummed.summary⟩

/-- An unsummed job may come before one with a summary. -/
theorem SummedRun.before (h : UnsummedRun p q) (h' : SummedRun q r) : SummedRun p r := by
  obtain ⟨more, hmore, hunsummed⟩ := h
  obtain ⟨more', hmore', hsummed⟩ := h'
  exact ⟨more ++ more', by rw [hmore', hmore, List.append_assoc], .before hunsummed hsummed⟩

/-- An unsummed job may come behind one with a summary. -/
theorem SummedRun.after (h : SummedRun p q) (h' : UnsummedRun q r) : SummedRun p r := by
  obtain ⟨more, hmore, hsummed⟩ := h
  obtain ⟨more', hmore', hunsummed⟩ := h'
  exact ⟨more ++ more', by rw [hmore', hmore, List.append_assoc], .after hsummed hunsummed⟩

end

namespace Logged

/-- The rule of sequencing when the summary comes later. -/
theorem unsummed_bind {m : Logged α} {f : α → Logged β} (hm : Proc.Within UnsummedRun m)
    (hf : ∀ a, Proc.Within SummedRun (f a)) : Proc.Within SummedRun (m >>= f) :=
  hm.bind_of hf (fun _ _ _ => .before) fun _ _ => UnsummedRun.summed

/-- The rule of sequencing when it comes earlier. -/
theorem bind_unsummed_at {m : Logged α} {f : α → Logged β} {p : Session × List Message}
    (hm : SummedRun p (m p).2) (hf : ∀ a, Proc.Within UnsummedRun (f a)) :
    SummedRun p ((m >>= f) p).2 := by
  rw [Proc.bind_run]
  rcases hrun : m p with ⟨a | e | _, q⟩ <;> rw [hrun] at hm
  · exact hm.after (hf a q)
  · exact hm
  · exact hm

/-- An unsummed job may follow the summary of every start. -/
theorem bind_unsummed {m : Logged α} {f : α → Logged β} (hm : Proc.Within SummedRun m)
    (hf : ∀ a, Proc.Within UnsummedRun (f a)) : Proc.Within SummedRun (m >>= f) :=
  fun p => bind_unsummed_at (hm p) hf

/-- The loop, started with new counters, and the summary after it. -/
theorem summary_summed (X : Externals) (records : List GpRecord) {p : Session × List Message}
    (hreset : p.1.counts = {}) :
    SummedRun p
      ((Proc.forEach (processRecord X) records >>= fun _ => summary records.length) p).2 := by
  obtain ⟨more, hmore, hfailures⟩ :=
    (Proc.Within.forEach fun r _ => processRecord_failures X r :
      Proc.Within (Proc.Wrote Failures) (Proc.forEach (processRecord X) records)) p
  obtain ⟨houtcome, hstate⟩ := Proc.Erases.forEach (processRecord_erases X) records p
  obtain ⟨i, u, e, htakes, hle, hok⟩ := GpPoller.processRecords_takes X records p.1
  rw [← houtcome] at hok
  rw [← hstate] at htakes
  rw [Proc.bind_run]
  rcases hrun : Proc.forEach (processRecord X) records p with ⟨a | x | _, q⟩ <;>
    rw [hrun] at hmore hfailures hok htakes
  · refine ⟨more ++ [.processed records.length q.1.counts], ?_, ?_⟩
    · show q.2 ++ _ = _
      rw [show q.2 = p.2 ++ more from hmore, List.append_assoc]
    · intro n counts hmem
      rw [List.filterMap_append, hfailures.summary, List.nil_append] at hmem
      obtain ⟨rfl, rfl⟩ : n = records.length ∧ counts = q.1.counts :=
        Prod.mk.inj (List.mem_singleton.1 hmem)
      have hcounts := htakes.counts
      have herror := hfailures.error
      simp only [hreset, Nat.zero_add] at hcounts herror
      rw [List.filterMap_append, List.filterMap_cons_none rfl, List.filterMap_nil, List.append_nil,
        ← herror]
      rw [hcounts]
      exact ⟨htakes.snapshots, rfl, hle, hok rfl⟩
  · exact ⟨more, hmore, .of_none hfailures.summary⟩
  · exact ⟨more, hmore, .of_none hfailures.summary⟩

/-- The move of the cursor comes behind the summary, and is unsummed. -/
theorem advanceCursor_unsummed (rotationTargetIds : List Int) :
    Proc.Within UnsummedRun (advanceCursor rotationTargetIds) := by
  unfold advanceCursor
  cases rotationTargetIds.getLast? with
  | none => exact unsummed_frame.cout ⟨rfl, rfl, rfl, rfl⟩
  | some newCursor =>
    refine unsummed_frame.transaction_bind fun s u db l hbody => ?_
    obtain ⟨-, rfl⟩ := Sql.advanceGpRotationCursor_ok.1 (map_unit_ok.1 hbody)
    exact ⟨_, rfl, rfl, rfl, rfl⟩

/-- A GP response, with its loop and the summary behind it. -/
theorem gpProcessResponse_summed (X : Externals) (hotTargetIds rotationTargetIds : List Int)
    (body : String) :
    Proc.Within SummedRun (gpProcessResponse X hotTargetIds rotationTargetIds body) := by
  refine unsummed_bind (unsummed_frame.silent (.ofExcept _)) fun records =>
    unsummed_bind (unsummed_frame.cout ⟨rfl, rfl, rfl, rfl⟩) fun _ p => ?_
  have hreset : UnsummedRun p ({ p.1 with counts := {} }, p.2) :=
    ⟨[], (List.append_nil _).symm, rfl, rfl, rfl⟩
  refine .before hreset ?_
  have hloop := bind_unsummed_at (summary_summed X records (p := ({ p.1 with counts := {} }, p.2))
    rfl) fun _ => advanceCursor_unsummed rotationTargetIds
  rw [bind_assoc] at hloop
  exact hloop

/-- A GP run, whose selects and request come before its response. -/
theorem runGp_summed (X : Externals) : Proc.Within SummedRun (runGp X) := by
  refine unsummed_bind (unsummed_frame.silent_onDb (query_onDb _)) fun hot =>
    unsummed_bind (unsummed_frame.silent_onDb (query_onDb _)) fun rot => ?_
  refine unsummed_bind (unsummed_frame.cout ⟨rfl, rfl, rfl, rfl⟩) fun _ =>
    unsummed_bind (unsummed_frame.cout ⟨rfl, rfl, rfl, rfl⟩) fun _ => ?_
  refine unsummed_bind (unsummed_frame.fetch _) fun r => ?_
  cases r with
  | none => exact fun p => UnsummedRun.summed (refl_of UnsummedRun p)
  | some body =>
    exact (gpProcessResponse_summed X hot rot body).attempt_of
      (fun e => unsummed_frame.cerr ⟨rfl, rfl, rfl, rfl⟩) fun _ _ _ => .after

/-- The batch of a SATCAT response stores no snapshot, and its lines are about objects. -/
theorem batch_unsummed {X : Externals} {registry : RuleRegistry ObjectState} {call : Call}
    {objs : List ObjectRecord} {events : List DetectedEvent} {db db' : Database} (n : ℕ)
    (h : Sql.upsertObjectsFromSatcat X registry call objs db = .ok (events, db')) :
    Unsummed db db' (.upserted n :: events.map fun e => .firedObject e.eventTypeCode) := by
  refine ⟨?_, by simp [Message.failed?], by simp [Message.summary?]⟩
  exact upsertObjectsFromSatcat_preserves (P := fun d => d.snapshots = db.snapshots)
    (fun obj _ _ _ hrow hsame => hrow.snapshots.trans hsame) h rfl

/-- Both pollers in a row: only the second one has a summary. -/
theorem runPollers_summed (X : Externals) : Proc.Within SummedRun (runPollers X) := by
  have hsatcat : Proc.Within UnsummedRun (runSatcat X) :=
    (unsummed_frame.cout ⟨rfl, rfl, rfl, rfl⟩).bind fun _ =>
      unsummed_frame.run (unsummed_frame.satcatProcessResponse fun _ n _ _ _ _ => batch_unsummed n)
  refine unsummed_bind (unsummed_frame.silent_onDb (query_onDb _)) fun satcatDue =>
    unsummed_bind (unsummed_frame.silent_onDb (query_onDb _)) fun gpDue => ?_
  refine unsummed_bind (unsummed_frame.markPollerRun satcatDue "satcat") fun _ =>
    unsummed_bind (unsummed_frame.markPollerRun gpDue "gp") fun _ => ?_
  refine unsummed_bind (unsummed_frame.whenDue hsatcat satcatDue ⟨rfl, rfl, rfl, rfl⟩) fun _ => ?_
  cases gpDue with
  | false => exact fun p => UnsummedRun.summed (unsummed_frame.cout ⟨rfl, rfl, rfl, rfl⟩ p)
  | true => exact runGp_summed X

/-- The whole of `main`, whatever it is started with. -/
theorem main_summed (X : Externals) (env : Environment) : Proc.Within SummedRun (main X env) := by
  refine unsummed_bind (unsummed_frame.cout ⟨rfl, rfl, rfl, rfl⟩) fun _ => ?_
  split
  · exact fun p => UnsummedRun.summed (((unsummed_frame.cerr ⟨rfl, rfl, rfl, rfl⟩).bind fun _ =>
      (unsummed_frame.cout ⟨rfl, rfl, rfl, rfl⟩).bind fun _ => .pure _) p)
  · refine bind_unsummed (Proc.Within.attempt_of (S := UnsummedRun) ?_ (fun e => ?_) fun _ _ _ =>
      .after) fun status => ?_
    · exact unsummed_bind (unsummed_frame.silent (.ofExcept _)) fun _ =>
        bind_unsummed (runPollers_summed X) fun _ => .pure _
    · exact (unsummed_frame.cerr ⟨rfl, rfl, rfl, rfl⟩).bind fun _ => .pure _
    · exact (unsummed_frame.cout ⟨rfl, rfl, rfl, rfl⟩).bind fun _ => .pure _

end Logged

/-- The summary that an invocation prints is true: of the snapshots that it stored, of the lines it
printed about records that failed, and of the number of the records, each of which is in one of its
numbers. -/
theorem invocation_summed (X : Externals) (env : Logged.Environment) (calls : Nat → Call)
    (db : Database) :
    Summed db (invocation X env calls db).1.db (invocation X env calls db).2 := by
  obtain ⟨more, hmore, hsummed⟩ := Logged.main_summed X env (.start db calls, [])
  rw [List.nil_append] at hmore
  rwa [← hmore] at hsummed

end VitaleBackend
