import VitaleBackend.Poller.Upsert

/-!
# What a batch does to one object

The rows of a SATCAT batch are upserted one after the other, and the row of one object and the
events recorded for it do not depend on those of another (`Untouched`). So a batch that has an
object once does to it what the upsert of its record does (`upsertObjectsFromSatcat_once`), whatever
else is in the batch, and a batch without repeated numbers fires for each record what the tables
before it say (`upsertObjectsFromSatcat_events`).
-/

namespace VitaleBackend

open Process Relational

/-! ## The columns of a stored record -/

/-- A text cut to the length of its column. -/
def cut (width : Nat) (s : String) : String := String.ofList (s.toList.take width)

/-- A text is not cut exactly when its column is wide enough. -/
theorem cut_eq_self {width : Nat} {s : String} : cut width s = s ↔ s.length ≤ width := by
  rw [cut, ← String.toList_inj, String.toList_ofList, List.take_eq_self_iff, String.length_toList]

/-- A text that a `VARCHAR` takes is stored cut to its length. -/
theorem varchar_ok {width : Nat} {s t : String} (h : varchar width s = .ok t) :
    t = cut width s := by
  rw [varchar] at h
  split at h
  · next hle =>
    cases h
    exact (cut_eq_self.2 hle).symm
  · split at h <;> cases h
    rfl

/-- A stored text reads back as it was sent exactly when it fits its column. -/
theorem getD_eq_iff {column : Option String} {width : Nat} {s : String}
    (h : column = some (cut width s)) : column.getD "" = s ↔ s.length ≤ width := by
  rw [h, Option.getD_some, cut_eq_self]

/-- A date that a column takes is the one that is read from its text. -/
theorem columnInput_mapM_ok {f : String → Option Int} {date : Option String} {d : Option Int}
    (h : date.mapM (columnInput f) = .ok d) : d.map some = date.map f := by
  cases date with
  | none =>
    cases h
    rfl
  | some text =>
    cases hf : f text with
    | none => simp [columnInput, hf] at h
    | some i =>
      obtain rfl : some i = d := by simpa [columnInput, hf] using h
      rw [Option.map_some, Option.map_some, hf]

/-- What the row of a record says before anything else happens to it. -/
structure ObjectRow.Reads (X : Externals) (now : Timestamp) (obj : ObjectRecord) (row : ObjectRow) :
    Prop where
  noradCatId : row.noradCatId = obj.noradCatId
  objectName : row.objectName = some (cut 25 obj.objectName)
  objectId : row.objectId = none
  objectType : row.objectType = some (cut 12 obj.objectType)
  countryCode : row.countryCode = some (cut 6 obj.countryCode)
  launchDate : row.launchDate.map some = obj.launchDate.map X.dateIn
  site : row.site = some (cut 5 obj.site)
  rcsSize : row.rcsSize = some (cut 6 obj.rcsSize)
  decayDate : row.decayDate.map some = obj.decayDate.map X.dateIn
  updatedAt : row.updatedAt = now
  hitCount : row.hitCount = 0
  featured : row.featured = false

/-- A row that is made of a record reads it: each column has what the record has, cut to its width.
-/
theorem ObjectRow.ofRecord_reads {X : Externals} {now : Timestamp} {obj : ObjectRecord}
    {row : ObjectRow} (h : ObjectRow.ofRecord X now obj = .ok row) : row.Reads X now obj := by
  simp only [ObjectRow.ofRecord, bind_eq_ok] at h
  obtain ⟨n, hn, name, hname, type, htype, country, hcountry, launch, hlaunch, site, hsite, rcs,
    hrcs, decay, hdecay, ⟨⟩⟩ := h
  exact ⟨(integerColumn_ok.1 hn).2.symm, congrArg some (varchar_ok hname), rfl,
    congrArg some (varchar_ok htype), congrArg some (varchar_ok hcountry),
    columnInput_mapM_ok hlaunch, congrArg some (varchar_ok hsite), congrArg some (varchar_ok hrcs),
    columnInput_mapM_ok hdecay, rfl, rfl, rfl⟩

/-! ## One object -/

/-- The events recorded for an object. -/
def eventsOf (n : Int) (db : Database) : List RecordedEvent :=
  (db.audtEvents.map (·.recorded)).filter (·.noradCatId = n)

/-- The row of an object and its events are left alone. -/
structure Untouched (n : Int) (db db' : Database) : Prop where
  row : db'.objects.find? n = db.objects.find? n
  events : eventsOf n db' = eventsOf n db

/-- Doing nothing leaves an object alone. -/
theorem Untouched.refl (n : Int) (db : Database) : Untouched n db db := ⟨rfl, rfl⟩

/-- So do two things in a row that leave it alone. -/
theorem Untouched.trans {n : Int} {db₁ db₂ db₃ : Database} (h : Untouched n db₁ db₂)
    (h' : Untouched n db₂ db₃) : Untouched n db₁ db₃ :=
  ⟨h'.row.trans h.row, h'.events.trans h.events⟩

/-- A record is upserted into the row of its object, behind the events that it fires. -/
structure UpsertedObject (X : Externals) (registry : RuleRegistry ObjectState) (call : Call)
    (obj : ObjectRecord) (db db' : Database) : Prop where
  row : ∃ row, ObjectRow.ofRecord X call.now obj = .ok row ∧ db'.objects.find? obj.noradCatId =
    some ((db.objects.find? obj.noradCatId).elim row row.onConflict)
  events : eventsOf obj.noradCatId db' = eventsOf obj.noradCatId db ++
    (satcatEvents X registry obj db).map fun e => ⟨obj.noradCatId, e, none, none⟩

section
variable {X : Externals} {registry : RuleRegistry ObjectState} {call : Call} {obj : ObjectRecord}
  {objs : List ObjectRecord} {db db' : Database} {events : List DetectedEvent}

/-- What an incoming record fires depends on the row of its object only. -/
theorem satcatEvents_congr
    (h : db'.objects.find? obj.noradCatId = db.objects.find? obj.noradCatId) :
    satcatEvents X registry obj db' = satcatEvents X registry obj db := by
  rw [satcatEvents, satcatEvents, h]

/-- The upsert of a record leaves every other object alone. -/
theorem UpsertedRow.untouched {n : Int} (h : UpsertedRow X registry call obj db db')
    (hn : n ≠ obj.noradCatId) : Untouched n db db' := by
  obtain ⟨row, hrow, ho⟩ := h.row
  refine ⟨?_, ?_⟩
  · rw [ho, Table.find?_upsert, (ObjectRow.ofRecord_reads hrow).noradCatId, if_neg hn]
  · rw [eventsOf, h.audtEvents, List.filter_append, eventsOf, List.append_right_eq_self]
    refine List.filter_eq_nil_iff.2 fun r hr => ?_
    obtain ⟨e, -, rfl⟩ := List.mem_map.1 hr
    simpa using hn.symm

/-- What the upsert of a record does to the row of its object. -/
theorem UpsertedRow.object (h : UpsertedRow X registry call obj db db') :
    UpsertedObject X registry call obj db db' := by
  obtain ⟨row, hrow, ho⟩ := h.row
  refine ⟨⟨row, hrow, ?_⟩, ?_⟩
  · rw [ho, ← (ObjectRow.ofRecord_reads hrow).noradCatId]
    exact Table.find?_upsert_self _ _ _ _
  · rw [eventsOf, h.audtEvents, List.filter_append, eventsOf]
    refine congrArg _ (List.filter_eq_self.2 fun r hr => ?_)
    obtain ⟨e, -, rfl⟩ := List.mem_map.1 hr
    simp

/-- A batch leaves the objects that are not in it alone. -/
theorem upsertObjectsFromSatcat_untouched {n : Int}
    (h : Sql.upsertObjectsFromSatcat X registry call objs db = .ok (events, db'))
    (hn : n ∉ objs.map (·.noradCatId)) : Untouched n db db' :=
  upsertObjectsFromSatcat_preserves (P := Untouched n db)
    (fun _ ho _ _ hrow hu => hu.trans (hrow.untouched fun heq => hn (heq ▸ List.mem_map_of_mem ho)))
    h (.refl n db)

/-- A batch does to an object that it has once what the upsert of its record does. -/
theorem upsertObjectsFromSatcat_once {pre post : List ObjectRecord}
    (h : Sql.upsertObjectsFromSatcat X registry call (pre ++ obj :: post) db = .ok (events, db'))
    (hpre : obj.noradCatId ∉ pre.map (·.noradCatId))
    (hpost : obj.noradCatId ∉ post.map (·.noradCatId)) :
    UpsertedObject X registry call obj db db' := by
  obtain ⟨e₁, db₁, e₂, h₁, h₂, -⟩ := upsertObjectsFromSatcat_append_ok.1 h
  obtain ⟨e₃, db₂, e₄, h₃, h₄, -⟩ := upsertObjectsFromSatcat_cons_ok.1 h₂
  have hbefore : Untouched obj.noradCatId db db₁ := upsertObjectsFromSatcat_untouched h₁ hpre
  have hafter : Untouched obj.noradCatId db₂ db' := upsertObjectsFromSatcat_untouched h₄ hpost
  obtain ⟨⟨row, hrow, hfind⟩, hevents⟩ := (upsertRow_ok h₃).2.object
  refine ⟨⟨row, hrow, ?_⟩, ?_⟩
  · rw [hafter.row, hfind, hbefore.row]
  · rw [hafter.events, hevents, hbefore.events, satcatEvents_congr hbefore.row]

/-- In a batch without repeated numbers every record is one that the batch has once. -/
theorem upsertObjectsFromSatcat_mem
    (h : Sql.upsertObjectsFromSatcat X registry call objs db = .ok (events, db'))
    (hnodup : (objs.map (·.noradCatId)).Nodup) (ho : obj ∈ objs) :
    UpsertedObject X registry call obj db db' := by
  obtain ⟨pre, post, rfl⟩ := List.append_of_mem ho
  rw [List.map_append, List.map_cons, List.nodup_middle, List.nodup_cons, List.mem_append,
    not_or] at hnodup
  exact upsertObjectsFromSatcat_once h hnodup.1.1 hnodup.1.2

/-- A batch without repeated numbers fires for each record what the tables before it say. -/
theorem upsertObjectsFromSatcat_events
    (h : Sql.upsertObjectsFromSatcat X registry call objs db = .ok (events, db'))
    (hnodup : (objs.map (·.noradCatId)).Nodup) :
    events = objs.flatMap (satcatEvents X registry · db) ∧
      db'.audtEvents.map (·.recorded) = db.audtEvents.map (·.recorded) ++
        objs.flatMap fun obj =>
          (satcatEvents X registry obj db).map fun e => ⟨obj.noradCatId, e, none, none⟩ := by
  induction objs generalizing db events with
  | nil =>
    cases h
    exact ⟨rfl, (List.append_nil _).symm⟩
  | cons obj objs ih =>
    obtain ⟨e₁, db₁, e₂, h₁, h₂, rfl⟩ := upsertObjectsFromSatcat_cons_ok.1 h
    obtain ⟨rfl, hrow⟩ := upsertRow_ok h₁
    rw [List.map_cons, List.nodup_cons] at hnodup
    obtain ⟨he, hrec⟩ := ih h₂ hnodup.2
    -- the first record is not of the object of any later one
    have hsame : ∀ o ∈ objs, satcatEvents X registry o db₁ = satcatEvents X registry o db :=
      fun o ho => satcatEvents_congr (hrow.untouched fun heq =>
        hnodup.1 (heq ▸ List.mem_map_of_mem ho)).row
    refine ⟨?_, ?_⟩
    · rw [he, List.flatMap_cons]
      exact congrArg _ (List.flatMap_congr hsame)
    · rw [hrec, hrow.audtEvents, List.flatMap_cons, List.append_assoc]
      refine congrArg _ (congrArg _ (List.flatMap_congr fun o ho => ?_))
      rw [hsame o ho]

/-! ## The method -/

/-- A batch that returns did what its statements do, and was committed. -/
theorem upsert_eq_ok {s s' : Session} :
    DbWriter.upsertObjectsFromSatcat X registry objs s = (.ok events, s') →
      Sql.upsertObjectsFromSatcat X registry s.call objs s.db = .ok (events, s'.db) := by
  rw [DbWriter.upsertObjectsFromSatcat]
  split
  · next he =>
    rintro ⟨⟩
    rw [he]
    rfl
  · intro h
    obtain ⟨-, db, hb, rfl⟩ := transaction_eq_ok.1 h
    exact hb

/-- A batch whose statements succeed returns when its call goes through. -/
theorem upsert_run {s : Session} (hf : s.call.fault = .none)
    (h : Sql.upsertObjectsFromSatcat X registry s.call objs s.db = .ok (events, db')) :
    ∃ s', DbWriter.upsertObjectsFromSatcat X registry objs s = (.ok events, s') ∧ s'.db = db' ∧
      s'.env = s.env := by
  rw [DbWriter.upsertObjectsFromSatcat]
  split
  · next he =>
    rw [he] at h
    cases h
    exact ⟨s, rfl, rfl, rfl⟩
  · exact ⟨_, transaction_ok hf h, rfl, rfl⟩

/-- With the default rules a batch returns when its call goes through and the columns take every
record. -/
theorem exists_upsert {s : Session} (hf : s.call.fault = .none)
    (h : ∀ obj ∈ objs, obj.Storable X) : ∃ events s',
      DbWriter.upsertObjectsFromSatcat X makeDefaultObjectRuleRegistry objs s = (.ok events, s') ∧
      Sql.upsertObjectsFromSatcat X makeDefaultObjectRuleRegistry s.call objs s.db =
        .ok (events, s'.db) := by
  obtain ⟨⟨events, db'⟩, hbatch⟩ : ∃ r, Sql.upsertObjectsFromSatcat X
      makeDefaultObjectRuleRegistry s.call objs s.db = .ok r := upsertObjectsFromSatcat_ok_iff.2 h
  obtain ⟨s', hrun, rfl, -⟩ := upsert_run hf hbatch
  exact ⟨events, s', hrun, hbatch⟩

end

end VitaleBackend
