import VitaleBackend.Api.Catalog
import VitaleBackend.Lib.RowLock
import VitaleBackend.Poller.Batch

/-!
# Hits

`GET /objects/<id>` counts itself in the row that the satcat poller upserts. The requests of any
number of clients, the batches and everything else take their statements in any order
(`Service.run`), under the locks of the rows that they write. No hit is lost and no poller touches
the columns that are set when a row is stored (`hits_counted`); a request that comes before its
object is committed as well, but finds no row to count itself in.
-/

namespace VitaleBackend

open Relational RowLock

/-- The columns that are set when a row is stored. -/
structure FixedColumns where
  featured : Bool
  objectId : Option String
  countryCode : Option String
  launchDate : Option Int
  site : Option String

/-- The fixed columns of a row: those that neither a hit nor the update of an upsert names. -/
def ObjectRow.fixed (row : ObjectRow) : FixedColumns :=
  ⟨row.featured, row.objectId, row.countryCode, row.launchDate, row.site⟩

namespace Hits

/-! ## Statements -/

/-- A statement that writes a row of `objects`. -/
inductive Stmt where
  | countHit (noradCatId : Int)
  | upsert (excluded : ObjectRow)

namespace Stmt

/-- The object whose row the statement writes. -/
def key : Stmt → Int
  | countHit noradCatId => noradCatId
  | upsert excluded => excluded.noradCatId

/-- What the statement makes of its row. -/
def apply : Stmt → Option ObjectRow → Option ObjectRow
  | countHit _, row => row.map fun row => { row with hitCount := row.hitCount + 1 }
  | upsert excluded, row => some (row.elim excluded excluded.onConflict)

end Stmt

/-- The hits that are counted for an object, none when it is not there. -/
def hits (row : Option ObjectRow) : Int := row.elim 0 (·.hitCount)

/-- A row with these fixed columns is stored. -/
def StoredWith (columns : FixedColumns) (row : Option ObjectRow) : Prop :=
  ∃ r, row = some r ∧ r.fixed = columns

/-- No statement takes a row away or touches its fixed columns. -/
theorem apply_storedWith (st : Stmt) {columns : FixedColumns} {row : Option ObjectRow}
    (h : StoredWith columns row) : StoredWith columns (st.apply row) := by
  obtain ⟨r, rfl, hr⟩ := h
  cases st with
  | countHit n => exact ⟨_, rfl, hr⟩
  | upsert excluded => exact ⟨_, rfl, hr⟩

/-- An upsert keeps the hits, and a new row has none. -/
theorem hits_upsert {excluded : ObjectRow} (h : excluded.hitCount = 0) (row : Option ObjectRow) :
    hits ((Stmt.upsert excluded).apply row) = hits row := by
  cases row with
  | none => exact h
  | some r => rfl

/-- The update of a request, on the whole table. -/
theorem find?_countHit (n : Int) (db : Database) (k : Int) :
    (Sql.countHit n db).objects.find? k =
      replay Stmt.key Stmt.apply [.countHit n] k (db.objects.find? k) := by
  have hfind : (Sql.countHit n db).objects.find? k =
      (db.objects.find? k).map (ObjectRow.countHit n) :=
    Table.find?_update _ _ (ObjectRow.countHit_noradCatId n) _
  rw [hfind, replay_cons, replay_nil]
  cases hk : db.objects.find? k with
  | none =>
    split <;> rfl
  | some row =>
    have hrow := Table.key_of_find? hk
    rw [Option.map_some, ObjectRow.countHit]
    by_cases hn : n = k
    · rw [if_pos (hrow.trans hn.symm), if_pos (show Stmt.key (.countHit n) = k from hn)]
      rfl
    · rw [if_neg fun heq => hn (heq.symm.trans hrow),
        if_neg (show Stmt.key (.countHit n) ≠ k from hn)]

/-- The rows of some records. -/
abbrev Rows (X : Externals) (call : Call) : List ObjectRecord → List ObjectRow → Prop :=
  List.Forall₂ fun obj row => ObjectRow.ofRecord X call.now obj = .ok row

/-- The upserts of a batch, on the whole table. -/
theorem find?_batch {X : Externals} {registry : RuleRegistry ObjectState} {call : Call}
    {objs : List ObjectRecord} {rows : List ObjectRow} {db db' : Database}
    {events : List DetectedEvent} (hrows : Rows X call objs rows)
    (h : Sql.upsertObjectsFromSatcat X registry call objs db = .ok (events, db')) (k : Int) :
    db'.objects.find? k =
      replay Stmt.key Stmt.apply (rows.map .upsert) k (db.objects.find? k) := by
  induction hrows generalizing db events with
  | nil =>
    cases h
    rfl
  | @cons obj row objs rows hrow _ ih =>
    obtain ⟨e₁, db₁, e₂, h₁, h₂, -⟩ := upsertObjectsFromSatcat_cons_ok.1 h
    obtain ⟨row', hrow', ho⟩ := (upsertRow_ok h₁).2.row
    cases hrow.symm.trans hrow'
    rw [ih h₂, List.map_cons, replay_cons, ho, Table.find?_upsert]
    refine congrArg _ ?_
    by_cases hk : k = row.noradCatId
    · rw [if_pos hk, if_pos (show Stmt.key (.upsert row) = k from hk.symm)]
      rfl
    · rw [if_neg hk, if_neg (show Stmt.key (.upsert row) ≠ k from Ne.symm hk)]

/-- A batch keeps the hits. -/
theorem hits_batch {X : Externals} {call : Call} {objs : List ObjectRecord}
    {rows : List ObjectRow} (hrows : Rows X call objs rows) (k : Int) (row : Option ObjectRow) :
    hits (replay Stmt.key Stmt.apply (rows.map .upsert) k row) = hits row := by
  refine replay_induction (P := fun v => hits v = hits row) (fun st hst v hv => ?_) rfl
  obtain ⟨excluded, hmem, rfl⟩ := List.mem_map.1 hst
  obtain ⟨obj, -, hrow⟩ := exists_left_of_mem hrows hmem
  exact (hits_upsert (ObjectRow.ofRecord_reads hrow).hitCount v).trans hv

/-! ## Interleavings -/

/-- Where a transaction is: a request before its update, or before the commit of its answer, and a
batch between two of its records. -/
inductive Txn where
  | get (noradCatId : Int)
  | answered (noradCatId : Int) (found : Bool)
  | batch (call : Call) (done todo : List ObjectRecord)

/-- The rows of `objects` with the transactions at work on them, how many requests for an object
were committed, and how many of these found it. -/
structure Service where
  rows : State Stmt Int ObjectRow ℕ
  txns : ℕ → Option Txn
  gets : Int → ℕ
  found : Int → ℕ

/-- A transaction begins, executes its next statement, or is over. GP runs and the other requests do
not write `objects`. -/
inductive Move where
  | get (i : ℕ) (noradCatId : Int)
  | batch (i : ℕ) (call : Call) (objs : List ObjectRecord)
  | step (i : ℕ)
  | commit (i : ℕ)
  | rollback (i : ℕ)
  | other

namespace Service

/-- The service before the first transaction begins, with these rows committed and nothing counted.
-/
def start (objects : Objects) : Service :=
  ⟨.start objects.find?, fun _ => none, fun _ => 0, fun _ => 0⟩

/-- A transaction goes on. -/
def goOn (s : Service) (i : ℕ) (rows : State Stmt Int ObjectRow ℕ) (txn : Txn) : Service :=
  { s with rows, txns := Function.update s.txns i (some txn) }

/-- A transaction is over. -/
def close (s : Service) (i : ℕ) (rows : State Stmt Int ObjectRow ℕ) : Service :=
  { s with rows, txns := Function.update s.txns i none }

/-- A request was committed. -/
def count (s : Service) (noradCatId : Int) (found : Bool) : Service :=
  { s with
    gets := fun n => if n = noradCatId then s.gets n + 1 else s.gets n
    found := fun n => if n = noradCatId ∧ found = true then s.found n + 1 else s.found n }

/-- One move: `none` when it is not possible, or has to wait for a lock. -/
def move (X : Externals) (s : Service) : Move → Option Service
  | .get i noradCatId =>
    if (s.txns i).isNone then some (s.goOn i s.rows (.get noradCatId)) else none
  | .batch i call objs =>
    if (s.txns i).isNone then some (s.goOn i s.rows (.batch call [] objs)) else none
  | .step i =>
    match s.txns i with
    | some (.get noradCatId) =>
      (s.rows.exec Stmt.key Stmt.apply i (.countHit noradCatId)).map fun rows =>
        s.goOn i rows (.answered noradCatId (s.rows.visible i noradCatId).isSome)
    | some (.batch call done (obj :: todo)) =>
      match ObjectRow.ofRecord X call.now obj with
      | .ok row => (s.rows.exec Stmt.key Stmt.apply i (.upsert row)).map fun rows =>
        s.goOn i rows (.batch call (done ++ [obj]) todo)
      | .error _ => none
    | _ => none
  | .commit i =>
    match s.txns i with
    | some (.answered noradCatId found) =>
      some ((s.close i (s.rows.commit i)).count noradCatId found)
    | some (.batch _ _ []) => some (s.close i (s.rows.commit i))
    | _ => none
  | .rollback i => (s.txns i).map fun _ => s.close i (s.rows.rollback i)
  | .other => some s

/-- One move after another. A run ends where a move cannot happen. -/
def run (X : Externals) (s : Service) : List Move → Option Service
  | [] => some s
  | m :: ms => (s.move X m).bind fun s => s.run X ms

/-! ## What the transactions have written -/

/-- What a transaction has written, by where it is. -/
def Written (X : Externals) (rows : State Stmt Int ObjectRow ℕ) (i : ℕ) : Option Txn → Prop
  | none => rows.written i = []
  | some (.get _) => rows.written i = []
  | some (.answered n true) => rows.written i = [.countHit n] ∧ rows.committed n ≠ none
  | some (.answered _ false) => rows.written i = []
  | some (.batch call done _) =>
    ∃ excluded, Rows X call done excluded ∧ rows.written i = excluded.map .upsert

/-- What every reachable state says: the transactions are isolated, each has written what it should
have, and every hit of a committed request is counted. -/
structure Ok (X : Externals) (objects : Objects) (s : Service) : Prop where
  isolated : s.rows.Isolated Stmt.key Stmt.apply
  written : ∀ i, Written X s.rows i (s.txns i)
  counted : ∀ n, hits (s.rows.committed n) = hits (objects.find? n) + s.found n

/-- The invariant holds when nothing has begun. -/
theorem start_ok (X : Externals) (objects : Objects) : (start objects).Ok X objects where
  isolated := State.start_isolated _
  written _ := rfl
  counted _ := (Int.add_zero _).symm

section
variable {X : Externals} {objects : Objects} {s s' : Service} {i : ℕ}

/-- What a transaction has written is left alone by what only others do. -/
theorem Written.congr {rows rows' : State Stmt Int ObjectRow ℕ} {txn : Option Txn}
    (h : Written X rows i txn) (hw : rows'.written i = rows.written i)
    (hc : ∀ n, rows.committed n ≠ none → rows'.committed n ≠ none) : Written X rows' i txn := by
  cases txn with
  | none => exact hw.trans h
  | some txn =>
    cases txn with
    | get n => exact hw.trans h
    | answered n found =>
      cases found with
      | false => exact hw.trans h
      | true => exact ⟨hw.trans h.1, hc n h.2⟩
    | batch call done todo =>
      obtain ⟨excluded, hrows, he⟩ := h
      exact ⟨excluded, hrows, hw.trans he⟩

/-- A transaction goes on: the others are where they were. -/
theorem Ok.goOn (h : s.Ok X objects) {rows : State Stmt Int ObjectRow ℕ} {txn : Txn}
    (hisolated : rows.Isolated Stmt.key Stmt.apply) (hc : rows.committed = s.rows.committed)
    (hothers : ∀ j, j ≠ i → rows.written j = s.rows.written j)
    (hi : Written X rows i (some txn)) : (s.goOn i rows txn).Ok X objects := by
  refine ⟨hisolated, fun j => ?_, fun n => ?_⟩
  · rw [Service.goOn]
    simp only [Function.update_apply]
    split
    · next hji => exact hji ▸ hi
    · next hji => exact (h.written j).congr (hothers j hji) fun n hn => by rwa [hc]
  · show hits (rows.committed n) = _
    rw [hc]
    exact h.counted n

/-- The update of a request. -/
theorem Ok.stepGet (h : s.Ok X objects) {n : Int} {rows : State Stmt Int ObjectRow ℕ}
    (hi : s.txns i = some (.get n))
    (he : s.rows.exec Stmt.key Stmt.apply i (.countHit n) = some rows) :
    (s.goOn i rows (.answered n (s.rows.visible i n).isSome)).Ok X objects := by
  have hnone : s.rows.written i = [] := by
    have hw := h.written i
    rwa [hi] at hw
  have hvisible : s.rows.visible i n = s.rows.committed n := by
    rw [h.isolated.visible_eq, hnone, replay_nil]
  have hisolated := h.isolated.exec he
  rcases State.exec_cases he with ⟨rfl, hv, -⟩ | ⟨rfl, -, hv⟩
  · refine h.goOn hisolated rfl (fun _ _ => rfl) ?_
    rw [show s.rows.visible i n = none from hv]
    exact hnone
  · have hfound : s.rows.committed n ≠ none := fun heq => hv (hvisible.trans heq) rfl
    refine h.goOn hisolated rfl (fun j hji => ?_) ?_
    · rw [State.write_written, if_neg hji]
    · rw [hvisible, Option.isSome_iff_ne_none.2 hfound]
      refine ⟨?_, hfound⟩
      rw [State.write_written, if_pos rfl, hnone]
      rfl

/-- The upsert of a record. -/
theorem Ok.stepBatch (h : s.Ok X objects) {call : Call} {done todo : List ObjectRecord}
    {obj : ObjectRecord} {row : ObjectRow} {rows : State Stmt Int ObjectRow ℕ}
    (hi : s.txns i = some (.batch call done (obj :: todo)))
    (hrow : ObjectRow.ofRecord X call.now obj = .ok row)
    (he : s.rows.exec Stmt.key Stmt.apply i (.upsert row) = some rows) :
    (s.goOn i rows (.batch call (done ++ [obj]) todo)).Ok X objects := by
  obtain ⟨excluded, hrows, hw⟩ : ∃ excluded, Rows X call done excluded ∧
      s.rows.written i = excluded.map .upsert := by
    have hw := h.written i
    rwa [hi] at hw
  have hisolated := h.isolated.exec he
  rcases State.exec_cases he with ⟨-, -, ha⟩ | ⟨rfl, -, -⟩
  · cases ha
  · refine h.goOn hisolated rfl (fun j hji => ?_) ?_
    · rw [State.write_written, if_neg hji]
    · refine ⟨excluded ++ [row], List.rel_append hrows (.cons hrow .nil), ?_⟩
      rw [State.write_written, if_pos rfl, hw, List.map_append]
      rfl

/-- A transaction is over: the others are where they were, and the rows that were there still
are. -/
theorem Ok.close (h : s.Ok X objects) {committed : Int → Option ObjectRow} {found : Int → ℕ}
    {gets : Int → ℕ} (hisolated : (s.rows.close i committed).Isolated Stmt.key Stmt.apply)
    (hc : ∀ n, s.rows.committed n ≠ none → committed n ≠ none)
    (hcounted : ∀ n, hits (committed n) = hits (objects.find? n) + found n) :
    Ok X objects ⟨s.rows.close i committed, Function.update s.txns i none, gets, found⟩ := by
  refine ⟨hisolated, fun j => ?_, hcounted⟩
  simp only [Function.update_apply]
  split
  · next hji =>
    show (s.rows.close i committed).written j = []
    rw [State.close_written, if_pos hji]
  · next hji =>
    refine (h.written j).congr ?_ hc
    rw [State.close_written, if_neg hji]

/-- The rows that a commit leaves. -/
theorem Ok.commit_committed (h : s.Ok X objects) (n : Int) : s.rows.visible i n =
    replay Stmt.key Stmt.apply (s.rows.written i) n (s.rows.committed n) :=
  h.isolated.commit_eq_replay i n

/-- What no statement takes away from a row, no commit does. -/
theorem Ok.commit_storedWith (h : s.Ok X objects) {n : Int} {columns : FixedColumns}
    (hn : StoredWith columns (s.rows.committed n)) : StoredWith columns (s.rows.visible i n) := by
  rw [h.commit_committed]
  exact replay_induction (fun st _ v hv => apply_storedWith st hv) hn

/-- A row that is committed is still there after any commit. -/
theorem Ok.commit_ne_none (h : s.Ok X objects) {n : Int} (hn : s.rows.committed n ≠ none) :
    s.rows.visible i n ≠ none := by
  obtain ⟨row, hrow⟩ := Option.ne_none_iff_exists'.1 hn
  obtain ⟨row', hrow', -⟩ := h.commit_storedWith (i := i) (n := n) ⟨row, hrow, rfl⟩
  rw [hrow']
  exact Option.some_ne_none _

/-- The commit of a request. -/
theorem Ok.commitGet (h : s.Ok X objects) {n : Int} {found : Bool}
    (hi : s.txns i = some (.answered n found)) :
    ((s.close i (s.rows.commit i)).count n found).Ok X objects := by
  refine h.close (h.isolated.commit i) (fun _ => h.commit_ne_none) fun k => ?_
  have hw := h.written i
  have hk := h.counted k
  rw [h.commit_committed]
  rw [hi] at hw
  cases found with
  | false =>
    rw [show s.rows.written i = [] from hw, replay_nil, hk]
    simp [Service.close]
  | true =>
    obtain ⟨hw, hstored⟩ := hw
    rw [hw, replay_cons, replay_nil]
    by_cases hnk : n = k
    · subst hnk
      obtain ⟨row, hrow⟩ := Option.ne_none_iff_exists'.1 hstored
      rw [hrow] at hk ⊢
      simp only [hits, Stmt.key, Stmt.apply, Option.map_some, Option.elim_some, if_true, and_self,
        Service.close] at hk ⊢
      push_cast
      omega
    · rw [if_neg (show Stmt.key (.countHit n) ≠ k from hnk), hk]
      simp [Service.close, Ne.symm hnk]

/-- The commit of a batch. -/
theorem Ok.commitBatch (h : s.Ok X objects) {call : Call} {done todo : List ObjectRecord}
    (hi : s.txns i = some (.batch call done todo)) :
    (s.close i (s.rows.commit i)).Ok X objects := by
  refine h.close (h.isolated.commit i) (fun _ => h.commit_ne_none) fun k => ?_
  have hw := h.written i
  rw [hi] at hw
  obtain ⟨excluded, hrows, hw⟩ := hw
  rw [h.commit_committed, hw, hits_batch hrows]
  exact h.counted k

/-- A transaction that rolls back leaves the committed rows and the counts as they were. -/
theorem Ok.rollback (h : s.Ok X objects) : (s.close i (s.rows.rollback i)).Ok X objects :=
  h.close (h.isolated.rollback i) (fun _ => id) h.counted

/-- A transaction begins. -/
theorem Ok.begin (h : s.Ok X objects) (hi : s.txns i = none) {txn : Txn}
    (htxn : s.rows.written i = [] → Written X s.rows i (some txn)) :
    (s.goOn i s.rows txn).Ok X objects := by
  refine h.goOn h.isolated rfl (fun _ _ => rfl) (htxn ?_)
  have hw := h.written i
  rwa [hi] at hw

/-- The step. -/
theorem Ok.move (h : s.Ok X objects) {m : Move} (hm : s.move X m = some s') : s'.Ok X objects := by
  cases m with
  | get i n =>
    rw [Service.move] at hm
    split at hm
    · next hi =>
      cases hm
      exact h.begin (Option.isNone_iff_eq_none.1 hi) id
    · cases hm
  | batch i call objs =>
    rw [Service.move] at hm
    split at hm
    · next hi =>
      cases hm
      exact h.begin (Option.isNone_iff_eq_none.1 hi) fun hw => ⟨[], .nil, hw⟩
    · cases hm
  | step i =>
    rw [Service.move] at hm
    split at hm
    · next n hi =>
      obtain ⟨rows, he, rfl⟩ := Option.map_eq_some_iff.1 hm
      exact h.stepGet hi he
    · next call done obj todo hi =>
      split at hm
      · next row hrow =>
        obtain ⟨rows, he, rfl⟩ := Option.map_eq_some_iff.1 hm
        exact h.stepBatch hi hrow he
      · cases hm
    · cases hm
  | commit i =>
    rw [Service.move] at hm
    split at hm
    · next n found hi =>
      cases hm
      exact h.commitGet hi
    · next call done hi =>
      cases hm
      exact h.commitBatch hi
    · cases hm
  | rollback i =>
    obtain ⟨txn, -, rfl⟩ := Option.map_eq_some_iff.1 hm
    exact h.rollback
  | other =>
    cases hm
    exact h

/-- The run. -/
theorem Ok.run (h : s.Ok X objects) {ms : List Move} (hrun : s.run X ms = some s') :
    s'.Ok X objects := by
  induction ms generalizing s with
  | nil =>
    cases hrun
    exact h
  | cons m ms ih =>
    obtain ⟨s₁, hm, hrun⟩ := Option.bind_eq_some_iff.1 hrun
    exact ih (h.move hm) hrun

/-- Only a commit changes the committed rows. -/
theorem move_committed {m : Move} (hm : s.move X m = some s') :
    s'.rows.committed = s.rows.committed ∨ ∃ i, s'.rows.committed = s.rows.visible i := by
  cases m with
  | get i n =>
    rw [Service.move] at hm
    split at hm <;> cases hm
    exact .inl rfl
  | batch i call objs =>
    rw [Service.move] at hm
    split at hm <;> cases hm
    exact .inl rfl
  | step i =>
    left
    rw [Service.move] at hm
    split at hm
    · obtain ⟨rows, he, rfl⟩ := Option.map_eq_some_iff.1 hm
      exact State.exec_committed he
    · split at hm
      · obtain ⟨rows, he, rfl⟩ := Option.map_eq_some_iff.1 hm
        exact State.exec_committed he
      · cases hm
    · cases hm
  | commit i =>
    rw [Service.move] at hm
    split at hm <;> cases hm <;> exact .inr ⟨i, rfl⟩
  | rollback i =>
    obtain ⟨txn, -, rfl⟩ := Option.map_eq_some_iff.1 hm
    exact .inl rfl
  | other =>
    cases hm
    exact .inl rfl

/-- A row that is stored stays stored, with its fixed columns. -/
theorem Ok.run_storedWith (h : s.Ok X objects) {ms : List Move} (hrun : s.run X ms = some s')
    {n : Int} {columns : FixedColumns} (hn : StoredWith columns (s.rows.committed n)) :
    StoredWith columns (s'.rows.committed n) := by
  induction ms generalizing s with
  | nil =>
    cases hrun
    exact hn
  | cons m ms ih =>
    obtain ⟨s₁, hm, hrun⟩ := Option.bind_eq_some_iff.1 hrun
    refine ih (h.move hm) hrun ?_
    rcases move_committed hm with heq | ⟨i, heq⟩
    · rw [heq]
      exact hn
    · rw [heq]
      exact h.commit_storedWith hn

/-! ## The transactions of the services -/

/-- A batch that commits makes of the rows committed by then what it would make of them alone. -/
theorem Ok.commit_batch (h : s.Ok X objects) {registry : RuleRegistry ObjectState} {call : Call}
    {objs : List ObjectRecord} (hi : s.txns i = some (.batch call objs []))
    {db db' : Database} {events : List DetectedEvent}
    (hdb : ∀ n, db.objects.find? n = s.rows.committed n)
    (hbatch : Sql.upsertObjectsFromSatcat X registry call objs db = .ok (events, db')) (n : Int) :
    (s.rows.commit i).committed n = db'.objects.find? n := by
  have hw := h.written i
  rw [hi] at hw
  obtain ⟨excluded, hrows, hw⟩ := hw
  rw [h.isolated.commit_eq_replay, hw, find?_batch hrows hbatch, hdb]

/-- A request that found its object and commits counts itself in the row committed by then. -/
theorem Ok.commit_get (h : s.Ok X objects) {noradCatId : Int}
    (hi : s.txns i = some (.answered noradCatId true)) {db : Database}
    (hdb : ∀ n, db.objects.find? n = s.rows.committed n) (n : Int) :
    (s.rows.commit i).committed n = (Sql.countHit noradCatId db).objects.find? n := by
  have hw := h.written i
  rw [hi] at hw
  rw [h.isolated.commit_eq_replay, hw.1, find?_countHit, hdb]

end

end Service

end Hits

open Hits

/-- Every committed request for an object is counted in its row, and its fixed columns are those it
was stored with. -/
def HitsCounted (X : Externals) : Prop :=
  ∀ (objects : Objects) (ms ms' : List Move) (s s' : Service),
    (Service.start objects).run X ms = some s → s.run X ms' = some s' →
    (∀ n row, s'.rows.committed n = some row →
      row.hitCount = hits (objects.find? n) + s'.gets n) ∧
    ∀ n row, s.rows.committed n = some row →
      ∃ row', s'.rows.committed n = some row' ∧ row'.fixed = row.fixed

/-- In every interleaving, at every point, the hits of an object are those it started with and the
committed requests that found it; and its fixed columns are those of every earlier point at which it
was stored. -/
theorem hits_counted {X : Externals} {objects : Objects} {ms ms' : List Move} {s s' : Service}
    (h : (Service.start objects).run X ms = some s) (h' : s.run X ms' = some s') :
    (∀ n row, s'.rows.committed n = some row →
      row.hitCount = hits (objects.find? n) + s'.found n) ∧
    ∀ n row, s.rows.committed n = some row →
      ∃ row', s'.rows.committed n = some row' ∧ row'.fixed = row.fixed := by
  have hs := (Service.start_ok X objects).run h
  refine ⟨fun n row hrow => ?_, fun n row hrow => hs.run_storedWith h' ⟨row, hrow, rfl⟩⟩
  have hcounted := (hs.run h').counted n
  rwa [hrow] at hcounted

namespace HitsFixture

/-- No third-party function is called on the texts of these records. -/
def externals : Externals := .ofTables [] [] []

/-- A record without a date, so that no text of it has to be converted. -/
def record : ObjectRecord where
  noradCatId := 5
  objectName := "VANGUARD 1"
  objectId := ""
  objectType := "PAYLOAD"
  countryCode := "US"
  launchDate := none
  site := "AFETR"
  rcsSize := ""
  decayDate := none

/-- A request for an object that is not there yet, and the batch that brings it. -/
def early : List Move :=
  [.get 0 5, .step 0, .commit 0, .batch 1 (calmEnv 0 "" 0) [record], .step 1, .commit 1]

/-- A request that comes after. -/
def late : List Move := [.get 2 5, .step 2, .commit 2]

/-- What a run says about the object: its committed requests, and its hits. -/
def countsOf (s : Service) : ℕ × Option Int := (s.gets 5, (s.rows.committed 5).map (·.hitCount))

/-- After the first run one request is committed, and the row has no hit. -/
theorem early_run : ((Service.start .empty).run externals early).map countsOf =
    some (1, some 0) := by
  decide +kernel

/-- After both runs two requests are committed, and the row has one hit. -/
theorem late_run : ((Service.start .empty).run externals (early ++ late)).map countsOf =
    some (2, some 1) := by
  decide +kernel

end HitsFixture

open HitsFixture in
/-- The rows that this run commits have as many hits as requests found them. -/
theorem hits_counted_late : ∃ s, (Service.start .empty).run externals (early ++ late) = some s ∧
    (∀ n row, s.rows.committed n = some row →
      row.hitCount = hits ((.empty : Objects).find? n) + s.found n) ∧
    ∀ n row, s.rows.committed n = some row →
      ∃ row', s.rows.committed n = some row' ∧ row'.fixed = row.fixed := by
  obtain ⟨s, hs, -⟩ := Option.map_eq_some_iff.1 late_run
  exact ⟨s, hs, hits_counted hs (rfl : s.run externals [] = some s)⟩

open HitsFixture in
/-- A request for an object that is not there yet is committed and not counted. -/
theorem not_hitsCounted : ¬ HitsCounted externals := by
  intro h
  obtain ⟨s, hs, hcounts⟩ := Option.map_eq_some_iff.1 early_run
  obtain ⟨hgets, hrow⟩ := Prod.mk.inj hcounts
  obtain ⟨row, hrow, hzero⟩ := Option.map_eq_some_iff.1 hrow
  have hcounted := (h .empty early [] s s hs rfl).1 5 row hrow
  rw [hgets, hzero] at hcounted
  exact absurd hcounted (by decide)

end VitaleBackend
