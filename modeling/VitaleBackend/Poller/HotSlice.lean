import VitaleBackend.Api.Catalog
import VitaleBackend.Poller.Featured

/-!
# What traffic does to the hot slice

Featured objects come first in the hot slice, so that hit counts decide among the others only: a
featured object is in the slice by the featured objects before it (`mem_hotRows_of_featured`), and
stays there whatever the hits of the others are (`hotSlice_guarantees`).
-/

namespace VitaleBackend

open Relational Sql

/-- The hit count of an object that is not featured may have been raised; nothing else has
changed. -/
structure HitsRaised (o o' : ObjectRow) : Prop where
  others : o' = { o with hitCount := o'.hitCount }
  le : o.hitCount ≤ o'.hitCount
  featured : o.featured = true → o'.hitCount = o.hitCount

/-- Traffic between two states of the catalogue. The rows may be stored in another order. -/
def Traffic (db db' : Database) : Prop :=
  ∃ rows, List.Forall₂ HitsRaised db.objects.rows rows ∧ rows.Perm db'.objects.rows

/-- What the hot slice guarantees. -/
structure HotSliceGuarantees (limit : Nat) (db : Database) : Prop where
  nodup : (topGpHotTargets limit db).Nodup
  length_le : (topGpHotTargets limit db).length ≤ limit
  qualifies : ∀ x ∈ topGpHotTargets limit db, ∃ o, db.objects.find? x = some o ∧ o.Qualifies
  featured : (featuredUndecayed db).length ≤ limit →
    ∀ o ∈ featuredUndecayed db, o.noradCatId ∈ topGpHotTargets limit db
  mostHit : ∀ o ∈ db.objects.rows, ∀ o' ∈ db.objects.rows, o.featured = false →
    o'.featured = false → o.noradCatId ∈ topGpHotTargets limit db → o'.Qualifies →
      o'.noradCatId ∉ topGpHotTargets limit db → o'.hitCount ≤ o.hitCount
  kept : ∀ db', Traffic db db' → ∀ o ∈ db.objects.rows, o.featured = true →
    o.noradCatId ∈ topGpHotTargets limit db → o.noradCatId ∈ topGpHotTargets limit db'

section
variable {db db' : Database} {limit : Nat} {o : ObjectRow}

/-- Traffic leaves the featured rows as they are. -/
theorem Traffic.featuredUndecayed (h : Traffic db db') :
    (featuredUndecayed db).Perm (featuredUndecayed db') := by
  obtain ⟨rows, hrows, hperm⟩ := h
  refine .trans (.of_eq ?_) (hperm.filter _)
  clear hperm
  unfold VitaleBackend.featuredUndecayed
  generalize db.objects.rows = before at hrows
  induction hrows with
  | nil => rfl
  | @cons o o' _ _ ho _ ih =>
    obtain ⟨hothers, -, hfeatured⟩ := ho
    have hdecay : o'.decayDate = o.decayDate := by rw [hothers]
    have hflag : o'.featured = o.featured := by rw [hothers]
    rw [List.filter_cons, List.filter_cons, hdecay, hflag, ih]
    split
    · next hwhere =>
      rw [hothers, hfeatured (of_decide_eq_true hwhere).2]
    · rfl

/-- A featured object that is in the slice stays there. -/
theorem Traffic.mem_hotRows (h : Traffic db db') (ho : o ∈ db.objects.rows)
    (hf : o.featured = true) (hmem : o ∈ hotRows limit db) :
    o ∈ db'.objects.rows ∧ o ∈ hotRows limit db' := by
  obtain ⟨hundecayed, hcount⟩ := (mem_hotRows_of_featured ho hf).1 hmem
  have hundecayed' := h.featuredUndecayed.mem_iff.1 hundecayed
  have ho' := (mem_featuredUndecayed.1 hundecayed').1
  rw [(h.featuredUndecayed.filter _).length_eq] at hcount
  exact ⟨ho', (mem_hotRows_of_featured ho' hf).2 ⟨hundecayed', hcount⟩⟩

end

/-- Whatever the hits, the hot slice has no duplicates and no more objects than its limit, the
featured objects as far as there is room for them, and of the others the most hit; and no traffic
removes a featured object from it. -/
theorem hotSlice_guarantees (limit : Nat) (db : Database) : HotSliceGuarantees limit db where
  nodup := topGpHotTargets_nodup
  length_le := topGpHotTargets_length limit db
  qualifies x hx := by
    obtain ⟨o, ho, rfl⟩ := List.mem_map.1 hx
    obtain ⟨hrow, hqualifies⟩ := mem_hotCandidates.1 (mem_of_mem_firstBy hotFirst ho)
    exact ⟨o, Table.find?_eq_some.2 ⟨hrow, rfl⟩, hqualifies⟩
  featured hfew o ho := by
    obtain ⟨hrow, hdecay, hf⟩ := mem_featuredUndecayed.1 ho
    exact mem_topGpHotTargets_of_featured hrow hdecay hf hfew
  mostHit o ho o' ho' hf hf' hmem hqualifies hout := by
    rw [mem_topGpHotTargets_rows ho] at hmem
    rw [mem_topGpHotTargets_rows ho'] at hout
    have hcandidate := mem_hotCandidates.2 ⟨ho', hqualifies⟩
    have hle : hotFirst o o' := firstBy_le hotFirst hmem hcandidate hout
    rcases hle with ⟨htrue, -⟩ | ⟨-, hlt | ⟨heq, -⟩⟩
    · rw [hf] at htrue
      cases htrue
    · exact hlt.le
    · exact heq.ge
  kept db' htraffic o ho hf hmem := by
    rw [mem_topGpHotTargets_rows ho] at hmem
    obtain ⟨ho', hmem'⟩ := htraffic.mem_hotRows ho hf hmem
    exact (mem_topGpHotTargets_rows ho').2 hmem'

/-! ## Requests for objects -/

section
variable {db : Database} {limit : Nat} {o : ObjectRow}

/-- A request for an object that is not featured raises its hits. -/
theorem traffic_countHit {noradCatId : Int}
    (h : ∀ o ∈ db.objects.rows, o.noradCatId = noradCatId → o.featured = false) :
    Traffic db (Sql.countHit noradCatId db) := by
  refine ⟨_, ?_, .refl _⟩
  rw [Sql.countHit_rows, List.forall₂_map_right_iff, List.forall₂_same]
  intro o ho
  unfold ObjectRow.countHit
  split
  · next hkey =>
    refine ⟨rfl, by simp, fun hf => ?_⟩
    rw [h o ho hkey] at hf
    cases hf
  · exact ⟨rfl, le_rfl, fun _ => rfl⟩

/-- Any number of requests for objects that are not featured leave a featured object where it is. -/
theorem featured_stays {ids : List Int}
    (hids : ∀ o ∈ db.objects.rows, o.noradCatId ∈ ids → o.featured = false)
    (ho : o ∈ db.objects.rows) (hf : o.featured = true) (hmem : o ∈ hotRows limit db) :
    o ∈ hotRows limit (ids.foldl (fun db noradCatId => Sql.countHit noradCatId db) db) := by
  induction ids generalizing db with
  | nil => exact hmem
  | cons noradCatId ids ih =>
    have htraffic : Traffic db (Sql.countHit noradCatId db) :=
      traffic_countHit fun o ho hkey => hids o ho (hkey ▸ .head _)
    obtain ⟨ho', hmem'⟩ := htraffic.mem_hotRows ho hf hmem
    refine ih (fun row hrow hkey => ?_) ho' hmem'
    rw [Sql.countHit_rows] at hrow
    obtain ⟨old, hold, rfl⟩ := List.mem_map.1 hrow
    rw [ObjectRow.countHit_noradCatId] at hkey
    have hflag : (old.countHit noradCatId).featured = old.featured := by
      unfold ObjectRow.countHit
      split <;> rfl
    rw [hflag]
    exact hids old hold (.tail _ hkey)

end

end VitaleBackend
