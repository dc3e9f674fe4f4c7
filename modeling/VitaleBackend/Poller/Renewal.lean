import VitaleBackend.Poller.Staleness
import VitaleBackend.Poller.Request

/-!
# Bounded staleness over a catalogue that changes

Between two runs objects are added and decay. The ring that a run goes around is then one of many,
but each of them lies in the set of all objects that are undecayed at some select, and what a run
passes of its own ring it passes of that set (`GpRun.passes`). So an object that is undecayed all
along is requested in time (`GpRuns.requests`).
-/

namespace VitaleBackend

open Process Sweep

namespace GpRun

section
variable {r : GpRun} {U : Finset Int} {x : Int}

/-- A batch that leaves out an object comes 300 objects nearer to it, in any set that has all
objects undecayed at its select. -/
theorem passes (hU : undecayedIds r.atRotation ⊆ U) (hx : Undecayed r.atRotation x)
    (hnot : x ∉ r.requested) : ∃ last, r.rotationTargets.getLast? = some last ∧
      (ahead U last x).card + 300 ≤
        (ahead U (r.atRotation.rotationCursor.getD (-1)) x).card := by
  have hV : ∀ y, y ∈ undecayedIds r.atRotation ↔ Undecayed r.atRotation y :=
    fun y => mem_undecayedIds
  have hxV := (hV x).2 hx
  have hrest : ∅ ⊆ U \ undecayedIds r.atRotation := Finset.empty_subset _
  obtain ⟨last, hlast, hring, hothers⟩ : ∃ last, r.rotationTargets.getLast? = some last ∧
      (ahead (undecayedIds r.atRotation) last x).card + 300 ≤
        (ahead (undecayedIds r.atRotation) (r.atRotation.rotationCursor.getD (-1)) x).card ∧
      (ahead (U \ undecayedIds r.atRotation) last x).card + (∅ : Finset Int).card ≤
        (ahead (U \ undecayedIds r.atRotation) (r.atRotation.rotationCursor.getD (-1)) x).card := by
    by_cases hw : r.Wraps
    · obtain ⟨last, hlast, hring⟩ := advances_wrap hV hw hxV hnot
      have hxp : x ≤ r.atRotation.rotationCursor.getD (-1) :=
        not_lt.1 fun hlt => hnot (mem_requested_of_wraps hw hx hlt)
      have hlt : last < x := not_le.1 fun hle => hnot (mem_requested_of_wraps_le hw hx (by
        rintro _ hlast'
        cases hlast.symm.trans hlast'
        exact hle))
      exact ⟨last, hlast, hring, card_ahead_wrap hrest hxp hlt nofun⟩
    · obtain ⟨last, hlast⟩ := exists_getLast hw
      have hmem := List.mem_of_getLast? hlast
      have hforward : r.atRotation.rotationCursor.getD (-1) < last := by
        rw [rotationTargets_full hw] at hmem
        exact (Sql.mem_selectTargets hmem).2 _ rfl
      refine ⟨last, hlast, advances_full hV hw hlast hxV hnot, ?_⟩
      exact card_ahead_forward hrest hforward.le
        (fun h => hnot (mem_requested_of_le hw hmem hx h.1 h.2)) nofun
  -- the ring of this run, and the other objects, which are passed by the way
  have hbefore := card_ahead_sdiff hU (r.atRotation.rotationCursor.getD (-1)) x
  have hafter := card_ahead_sdiff hU last x
  rw [Finset.card_empty] at hothers
  exact ⟨last, hlast, by omega⟩

/-- A run as a visit of the sweep for one object, as if it requested all the others. -/
def visitFor (X : Externals) (x : Int) (r : GpRun) : Visit Int :=
  { r.visit X with requested := {y | y = x → r.Succeeds X ∧ x ∈ r.requested} }

/-- A successful run that passes an object by moves 300 numbers on towards it. -/
theorem visitFor_advances {X : Externals} (hU : undecayedIds r.atRotation ⊆ U)
    (hx : Undecayed r.atRotation x)
    (hc : r.atRotation.rotationCursor = r.start.db.rotationCursor) (hs : r.Succeeds X) :
    (visitFor X x r).Advances U 300 := by
  intro y _ hnot
  obtain ⟨rfl, hnot⟩ := Classical.not_imp.1 hnot
  obtain ⟨last, hlast, hcard⟩ := passes hU hx fun h => hnot ⟨hs, h⟩
  have hcur : (r.finish X).db.rotationCursor =
      cursorAfter r.start.db.rotationCursor r.rotationTargets := by
    rcases r.finish_cursor X with ⟨-, hcur⟩ | ⟨hn, -⟩
    · exact hcur
    · exact absurd hs hn
  show (ahead U ((r.finish X).db.rotationCursor.getD (-1)) y).card + 300 ≤
    (ahead U (r.start.db.rotationCursor.getD (-1)) y).card
  rw [hcur, cursorAfter, hlast, Option.some_or, Option.getD_some, ← hc]
  exact hcard

end

end GpRun

/-- The runs are a chain of such visits. -/
theorem GpRuns.chainedFor {X : Externals} {rs : List GpRun} {cursor : Option Int}
    (h : GpRuns X cursor rs) (x : Int) :
    Chained (cursor.getD (-1)) (rs.map (GpRun.visitFor X x)) := by
  induction rs generalizing cursor with
  | nil => trivial
  | cons r rs ih => exact ⟨congrArg (·.getD (-1)) h.2.1, ih h.2.2⟩

/-- An object that is undecayed at each select is requested by a successful run when there is one
for every 300 of the objects that are undecayed at some select. -/
theorem GpRuns.requests {X : Externals} {cursor : Option Int} {rs : List GpRun}
    (h : GpRuns X cursor rs) {U : Finset Int} (hU : ∀ r ∈ rs, undecayedIds r.atRotation ⊆ U)
    {x : Int} (hx : ∀ r ∈ rs, Undecayed r.atRotation x) (hxU : x ∈ U)
    (hcount : U.card ≤ 300 * rs.countP (GpRun.succeeds X)) :
    ∃ r ∈ rs, r.Succeeds X ∧ x ∈ r.requested := by
  have hworks : ∀ r ∈ rs, r.succeeds X = true → (GpRun.visitFor X x r).Advances U 300 :=
    fun r hr hs => GpRun.visitFor_advances (hU r hr) (hx r hr) (h.selects r hr)
      (GpRun.succeeds_iff.1 hs)
  have hidle : ∀ r ∈ rs, r.succeeds X = false →
      (GpRun.visitFor X x r).after = (GpRun.visitFor X x r).before := by
    intro r _ hs
    rcases r.finish_cursor X with ⟨hok, -⟩ | ⟨-, hcur⟩
    · rw [GpRun.succeeds_iff.2 hok] at hs
      cases hs
    · exact congrArg (·.getD (-1)) hcur
  obtain ⟨r, hr, hrequested⟩ := requested_in_time (h.chainedFor x) hworks hidle hcount hxU
  exact ⟨r, hr, hrequested rfl⟩

end VitaleBackend
