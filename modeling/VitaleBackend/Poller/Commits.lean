import Mathlib.Logic.Relation
import VitaleBackend.Api.Catalog
import VitaleBackend.Poller.StoreRecord

/-!
# Reachable tables

Every transaction of the services that writes is one of six (`Commit`), whatever process it belongs
to. What the tables can become is what a sequence of commits makes of the migrated database
(`Reachable`), and a whole cron invocation is such a sequence (`main_commits`).
-/

namespace VitaleBackend

open Process Relational

/-- One transaction that is committed. -/
inductive Commit (X : Externals) : Database → Database → Prop
  | batch {call : Call} {objs : List ObjectRecord} {db : Database} {events : List DetectedEvent}
      {db' : Database} : Sql.upsertObjectsFromSatcat X makeDefaultObjectRuleRegistry call objs db =
        .ok (events, db') → Commit X db db'
  | snapshot {call : Call} {snap : Snapshot} {db : Database} {id : Nat} {db' : Database} :
      Sql.insertSnapshot X call snap db = .ok (id, db') → Commit X db db'
  | event {call : Call} {n : Int} {e : DetectedEvent} {p q : Nat} {db db' : Database} :
      Sql.insertEvent call n e (some p) (some q) db = .ok db' → Commit X db db'
  | stamp (pollerName : String) (now : Timestamp) (db : Database) :
      Commit X db (Sql.markPollerRun pollerName now db)
  | cursor {c : Int} {now : Timestamp} {db db' : Database} :
      Sql.advanceGpRotationCursor c now db = .ok db' → Commit X db db'
  | hit (noradCatId : Int) (db : Database) : Commit X db (Sql.countHit noradCatId db)

/-- A sequence of commits. -/
abbrev Commits (X : Externals) : Database → Database → Prop := Relation.ReflTransGen (Commit X)

/-- The tables can become these. -/
def Reachable (X : Externals) (db : Database) : Prop := Commits X .empty db

/-- Each transaction of the GP poller is one commit. -/
theorem commits_frame (X : Externals) : ResponseFrame X (Commits X) where
  snapshot _ _ _ _ _ h := .single (.snapshot h)
  event _ _ _ _ _ _ _ _ h := .single (.event h)
  cursor _ _ _ _ h := .single (.cursor h)

/-- A cron invocation is a sequence of commits. -/
theorem main_commits (X : Externals) : Proc.Within (OnRun (Commits X)) (main X) :=
  main_onRun (fun pollerName now db => .single (.stamp pollerName now db))
    (satcat_processResponse_within X fun _ _ _ _ _ h => .single (.batch h))
    (runGp_onRun (commits_frame X))

/-- The tables after one SATCAT response on the migrated database. -/
def catalogued (X : Externals) (jsonBody : String) : Database :=
  (SatcatPoller.processResponse X jsonBody (.start .empty (calmEnv 0 ""))).2.db

/-- The tables after a response on the migrated database are reachable. -/
theorem catalogued_reachable (X : Externals) (jsonBody : String) :
    Reachable X (catalogued X jsonBody) :=
  (satcat_processResponse_within (Q := Commits X) X (fun _ _ _ _ _ h => .single (.batch h)) jsonBody
    (.start .empty (calmEnv 0 ""))).db

/-- A GP response leaves reachable tables reachable. -/
theorem Reachable.gp_processResponse {X : Externals} {s : Session} (h : Reachable X s.db)
    (rotationTargetIds : List Int) (body : String) :
    Reachable X (GpPoller.processResponse X rotationTargetIds body s).2.db :=
  Relation.ReflTransGen.trans h
    (gp_processResponse_onDb (commits_frame X) rotationTargetIds body s).db

/-- What holds of the migrated database and survives every commit holds of all tables. -/
theorem Reachable.induction {X : Externals} {P : Database → Prop} (hempty : P .empty)
    (hstep : ∀ db db', Commit X db db' → P db → P db') {db : Database} (h : Reachable X db) :
    P db := by
  induction h with
  | refl => exact hempty
  | tail _ hcommit ih => exact hstep _ _ hcommit ih

end VitaleBackend
