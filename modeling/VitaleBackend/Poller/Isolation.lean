import VitaleBackend.Poller.Content
import VitaleBackend.Poller.Rotation

/-!
# Bad entries and bodies without records

`process_response` handles a record that the database refuses at that record, but
`parse_gp_response` throws for the whole response at the first entry that does not convert, and
takes whatever the range-`for` visits in a body that is no array for entries. `isolated_iff` says
when an entry that goes wrong leaves the rest alone, `unmoved_iff` when a body without records moves
nothing. Both are read off `GpContent.respond`.
-/

namespace VitaleBackend

open Process Relational

/-! ## What a response stores -/

namespace GpContent

section
variable {X : Externals} {c : GpContent}

/-- The tables refuse a record. -/
def Refuses (X : Externals) (c : GpContent) (r : GpRecord) : Prop := ∀ row, ¬ c.Takes X r row

/-- A record adds at most one snapshot and takes none away. -/
theorem store_length (r : GpRecord) : c.snapshots.length ≤ (c.store X r).snapshots.length := by
  by_cases h : ∃ row, c.Takes X r row
  · obtain ⟨row, h⟩ := h
    rw [store_of_takes h]
    show _ ≤ (c.snapshots ++ [row]).length
    rw [List.length_append]
    omega
  · rw [store_of_not_takes fun row hrow => h ⟨row, hrow⟩]

/-- Neither do any number of records take a snapshot away. -/
theorem storeAll_length (rs : List GpRecord) (c : GpContent) :
    c.snapshots.length ≤ (c.storeAll X rs).snapshots.length := by
  induction rs generalizing c with
  | nil => exact le_refl _
  | cons r rs ih => exact (store_length r).trans (ih (c.store X r))

/-- A record whose turn adds no snapshot was refused. -/
theorem refuses_of_length {r : GpRecord}
    (h : (c.store X r).snapshots.length ≤ c.snapshots.length) : c.Refuses X r := by
  intro row ht
  rw [store_of_takes ht] at h
  have hlen : (c.snapshots ++ [row]).length ≤ c.snapshots.length := h
  rw [List.length_append, List.length_singleton] at hlen
  omega

/-- Records add no snapshot exactly when the tables refuse every one of them, and then they change
nothing. -/
theorem storeAll_refused {rs : List GpRecord} {c : GpContent} :
    (c.storeAll X rs).snapshots.length ≤ c.snapshots.length ↔
      (∀ r ∈ rs, c.Refuses X r) ∧ c.storeAll X rs = c := by
  induction rs with
  | nil => simp
  | cons r rs ih =>
    rw [storeAll_cons, List.forall_mem_cons]
    constructor
    · intro h
      have hr : c.Refuses X r := refuses_of_length ((storeAll_length rs _).trans h)
      rw [store_of_not_takes hr] at h ⊢
      obtain ⟨hrs, heq⟩ := ih.1 h
      exact ⟨⟨hr, hrs⟩, heq⟩
    · rintro ⟨-, heq⟩
      rw [heq]

/-- Records that are all refused change nothing. -/
theorem storeAll_of_refuses {rs : List GpRecord} (h : ∀ r ∈ rs, c.Refuses X r) :
    c.storeAll X rs = c := by
  induction rs with
  | nil => rfl
  | cons r rs ih =>
    rw [storeAll_cons, store_of_not_takes (h r (.head _))]
    exact ih fun r' hr' => h r' (.tail _ hr')

end

section
variable {rot : List Int} {cursor : Option Int}

/-- The cursor stays where it is exactly when the last target is out of range or is the cursor. -/
theorem advanced_eq_iff : advanced rot cursor = cursor ↔
    ∀ n ∈ rot.getLast?, IsInt32 n → cursor = some n := by
  unfold advanced
  cases rot.getLast? with
  | none => simp
  | some n =>
    dsimp only
    split
    · next h => simp [h, eq_comm]
    · next h => simp [h]

/-- The cursor comes to the last target exactly when that is in range or was the cursor. -/
theorem advanced_reaches_iff : (∀ n ∈ rot.getLast?, advanced rot cursor = some n) ↔
    ∀ n ∈ rot.getLast?, IsInt32 n ∨ cursor = some n := by
  refine forall₂_congr fun n hn => ?_
  unfold advanced
  rw [Option.mem_def.1 hn]
  dsimp only
  split
  · next h => simp [h]
  · next h => simp [h]

end

end GpContent

/-! ## Runs that fetched a body -/

/-- A run that fetches this body, and none of whose calls fails. -/
structure Delivers (p : Poller) (s : Session) (body : String) : Prop where
  calm : Calm s.env
  fetched : ∃ s', p.fetch s = (.ok (some body), s')

/-- A run that fetches a body changes the content and the cursor as `respond` does. -/
theorem run_refines {X : Externals} {hot rot : List Int} {s : Session} {body : String}
    (h : Delivers (gpPoller X hot rot) s body) :
    (((gpPoller X hot rot).run s).2.db.content, ((gpPoller X hot rot).run s).2.db.rotationCursor) =
      GpContent.respond X rot body s.db.content s.db.rotationCursor := by
  obtain ⟨s', hf⟩ := h.fetched
  have hkeep := fetch_onRun (gpPoller X hot rot) (Q := KeepsDb id) s
  rw [hf] at hkeep
  have hdb : s'.db = s.db := hkeep.1
  have hcalm : Calm s'.env := by
    rw [hkeep.2]
    exact h.calm
  unfold Poller.run
  rw [Proc.bind_ok hf, ← hdb]
  exact handle_refines X hot rot body hcalm

/-- A body that is an array is parsed entry by entry. -/
theorem parseGpResponse_entries {X : Externals} {body : String} {entries : List Json}
    (h : X.parse body = some (.arr entries)) :
    parseGpResponse X body = parseEntries GpRecord.parseOne entries := by
  unfold parseGpResponse parseResponse
  rw [h]
  rfl

/-! ## One bad entry -/

/-- An entry that does not convert, or that the database rejects at its turn. -/
def BadEntry (X : Externals) (c : GpContent) (pre : List Json) (e : Json) : Prop :=
  ¬ Converts GpRecord.parseOne e ∨
  ∃ rs r, parseEntries GpRecord.parseOne pre = .ok rs ∧ GpRecord.parseOne e = .ok r ∧
    (c.storeAll X rs).Refuses X r

/-- Two runs end alike: the same snapshots and events up to ids and times, and the same cursor,
which is the last rotation target. -/
structure EndAlike (rot : List Int) (db db' : Database) : Prop where
  snapshots : db.content.snapshots = db'.content.snapshots
  events : db.content.events = db'.content.events
  cursor : db.rotationCursor = db'.rotationCursor
  advanced : ∀ n ∈ rot.getLast?, db.rotationCursor = some n

/-- When a bad entry leaves the rest alone: everything converts; or the response is rejected whole,
the cursor has nowhere to go, and the other entries are rejected too or would store nothing. -/
def IsolatedWhen (X : Externals) (rot : List Int) (db : Database) (pre : List Json) (e : Json)
    (post : List Json) : Prop :=
  ((∀ j ∈ pre ++ e :: post, Converts GpRecord.parseOne j) ∧
    ∀ n ∈ rot.getLast?, IsInt32 n ∨ db.rotationCursor = some n) ∨
  ((∃ j ∈ pre ++ e :: post, ¬ Converts GpRecord.parseOne j) ∧
    (∀ n ∈ rot.getLast?, db.rotationCursor = some n) ∧
    ((∃ j ∈ pre ++ post, ¬ Converts GpRecord.parseOne j) ∨
      ∀ j ∈ pre ++ post, ∀ r, GpRecord.parseOne j = .ok r → db.content.Refuses X r))

section
variable {X : Externals} {hot rot : List Int} {s t : Session} {body body' : String}
  {pre post : List Json} {e : Json}

/-- Everything converts: the bad entry was refused at its turn, and the rest goes on. -/
theorem respond_of_converts (rot : List Int) (c : GpContent) (cursor : Option Int)
    (hp : X.parse body = some (.arr (pre ++ e :: post)))
    (hp' : X.parse body' = some (.arr (pre ++ post))) (hbad : BadEntry X c pre e)
    (hall : ∀ j ∈ pre ++ e :: post, Converts GpRecord.parseOne j) :
    GpContent.respond X rot body c cursor = GpContent.respond X rot body' c cursor ∧
      (GpContent.respond X rot body c cursor).2 = GpContent.advanced rot cursor := by
  obtain ⟨rs, hrs⟩ := parseEntries_converts.2 hall
  obtain ⟨rs₁, rs₂, h₁, h₂, rfl⟩ := parseEntries_append.1 hrs
  obtain ⟨r, rs₃, hr, h₃, rfl⟩ := parseEntries_cons_ok.1 h₂
  have hrefuse : (c.storeAll X rs₁).Refuses X r := by
    rcases hbad with hnot | ⟨rs', r', hrs', hr', href⟩
    · exact absurd ⟨r, hr⟩ hnot
    · rw [h₁] at hrs'
      rw [hr] at hr'
      cases hrs'
      cases hr'
      exact href
  have hwith : parseGpResponse X body = .ok (rs₁ ++ r :: rs₃) := by
    rw [parseGpResponse_entries hp, hrs]
  have hwithout : parseGpResponse X body' = .ok (rs₁ ++ rs₃) := by
    rw [parseGpResponse_entries hp', parseEntries_append.2 ⟨rs₁, rs₃, h₁, h₃, rfl⟩]
  rw [GpContent.respond_ok hwith, GpContent.respond_ok hwithout]
  refine ⟨?_, rfl⟩
  rw [GpContent.storeAll_append, GpContent.storeAll_cons, GpContent.store_of_not_takes hrefuse,
    GpContent.storeAll_append]

/-- Some entry does not convert: the response is rejected whole. -/
theorem respond_of_not_converts {entries : List Json} (c : GpContent) (cursor : Option Int)
    (hp : X.parse body = some (.arr entries))
    (hnot : ∃ j ∈ entries, ¬ Converts GpRecord.parseOne j) :
    GpContent.respond X rot body c cursor = (c, cursor) := by
  obtain ⟨err, herr⟩ := parseEntries_error.2 hnot
  exact GpContent.respond_error ((parseGpResponse_entries hp).trans herr)

/-- A response leaves as many snapshots as there were exactly when it is rejected or the tables
refuse all of it. -/
theorem respond_idle_iff {entries : List Json} {c : GpContent} {cursor : Option Int}
    (hp : X.parse body = some (.arr entries)) :
    (GpContent.respond X rot body c cursor).1.snapshots.length ≤ c.snapshots.length ↔
      (∃ j ∈ entries, ¬ Converts GpRecord.parseOne j) ∨
        ∀ j ∈ entries, ∀ r, GpRecord.parseOne j = .ok r → c.Refuses X r := by
  by_cases hall : ∀ j ∈ entries, Converts GpRecord.parseOne j
  · obtain ⟨rs, hrs⟩ := parseEntries_converts.2 hall
    have hnone : ¬ ∃ j ∈ entries, ¬ Converts GpRecord.parseOne j := by simpa using hall
    rw [GpContent.respond_ok ((parseGpResponse_entries hp).trans hrs), or_iff_right hnone,
      ← forall_record_iff hrs, GpContent.storeAll_refused]
    exact ⟨fun h => h.1, fun h => ⟨h, GpContent.storeAll_of_refuses h⟩⟩
  · have hnot : ∃ j ∈ entries, ¬ Converts GpRecord.parseOne j := by simpa using hall
    rw [respond_of_not_converts c cursor hp hnot]
    exact iff_of_true (le_refl _) (.inl hnot)

/-- Such a response changes nothing when the cursor has nowhere to go. -/
theorem respond_idle {c : GpContent} {cursor : Option Int}
    (h : (GpContent.respond X rot body c cursor).1.snapshots.length ≤ c.snapshots.length)
    (hto : ∀ n ∈ rot.getLast?, cursor = some n) :
    GpContent.respond X rot body c cursor = (c, cursor) := by
  cases hp : parseGpResponse X body with
  | error err => exact GpContent.respond_error hp
  | ok rs =>
    rw [GpContent.respond_ok hp] at h ⊢
    rw [(GpContent.storeAll_refused.1 h).2,
      GpContent.advanced_eq_iff.2 fun n hn _ => hto n hn]

section
variable {db db' : Database} {c : GpContent} {cursor : Option Int}

/-- Everything converts: with and without the bad entry the same is stored, and what is left is
whether the cursor comes to its target. -/
theorem endAlike_of_converts (hp : X.parse body = some (.arr (pre ++ e :: post)))
    (hp' : X.parse body' = some (.arr (pre ++ post))) (hbad : BadEntry X c pre e)
    (hall : ∀ j ∈ pre ++ e :: post, Converts GpRecord.parseOne j)
    (hdb : (db.content, db.rotationCursor) = GpContent.respond X rot body c cursor)
    (hdb' : (db'.content, db'.rotationCursor) = GpContent.respond X rot body' c cursor) :
    EndAlike rot db db' ↔ ∀ n ∈ rot.getLast?, IsInt32 n ∨ cursor = some n := by
  obtain ⟨heq, hadv⟩ := respond_of_converts rot c cursor hp hp' hbad hall
  have hcur : db.rotationCursor = GpContent.advanced rot cursor :=
    (congrArg Prod.snd hdb).trans hadv
  obtain ⟨hcont, hcurs⟩ := Prod.ext_iff.1 (hdb.trans (heq.trans hdb'.symm))
  rw [← GpContent.advanced_reaches_iff, ← hcur]
  exact ⟨fun h => h.advanced, fun h =>
    ⟨congrArg (·.snapshots) hcont, congrArg (·.events) hcont, hcurs, h⟩⟩

/-- Some entry does not convert: the other response must not do anything either. -/
theorem endAlike_of_not_converts {entries : List Json}
    (hp : X.parse body = some (.arr entries))
    (hp' : X.parse body' = some (.arr (pre ++ post)))
    (hnot : ∃ j ∈ entries, ¬ Converts GpRecord.parseOne j)
    (hdb : (db.content, db.rotationCursor) = GpContent.respond X rot body c cursor)
    (hdb' : (db'.content, db'.rotationCursor) = GpContent.respond X rot body' c cursor) :
    EndAlike rot db db' ↔
      (∀ n ∈ rot.getLast?, cursor = some n) ∧
        ((∃ j ∈ pre ++ post, ¬ Converts GpRecord.parseOne j) ∨
          ∀ j ∈ pre ++ post, ∀ r, GpRecord.parseOne j = .ok r → c.Refuses X r) := by
  rw [respond_of_not_converts c cursor hp hnot] at hdb
  obtain ⟨rfl, rfl⟩ := Prod.ext_iff.1 hdb
  rw [← @respond_idle_iff X rot body' (pre ++ post) db.content db.rotationCursor hp']
  constructor
  · intro h
    refine ⟨h.advanced, ?_⟩
    rw [← hdb', ← h.snapshots]
  · rintro ⟨hto, hidle⟩
    rw [respond_idle hidle hto] at hdb'
    obtain ⟨hcont, hcurs⟩ := Prod.ext_iff.1 hdb'
    exact ⟨congrArg (·.snapshots) hcont.symm, congrArg (·.events) hcont.symm, hcurs.symm, hto⟩

end

/-- A bad entry leaves the rest of its response alone exactly under `IsolatedWhen`. -/
theorem isolated_iff (hs : Delivers (gpPoller X hot rot) s body)
    (ht : Delivers (gpPoller X hot rot) t body') (hdb : t.db = s.db)
    (hp : X.parse body = some (.arr (pre ++ e :: post)))
    (hp' : X.parse body' = some (.arr (pre ++ post))) (hbad : BadEntry X s.db.content pre e) :
    EndAlike rot ((gpPoller X hot rot).run s).2.db ((gpPoller X hot rot).run t).2.db ↔
      IsolatedWhen X rot s.db pre e post := by
  have hrun := run_refines hs
  have hrun' := run_refines ht
  rw [hdb] at hrun'
  unfold IsolatedWhen
  by_cases hall : ∀ j ∈ pre ++ e :: post, Converts GpRecord.parseOne j
  · have hnone : ¬ ∃ j ∈ pre ++ e :: post, ¬ Converts GpRecord.parseOne j := by simpa using hall
    refine Iff.trans ?_ (or_iff_left fun h => hnone h.1).symm
    rw [endAlike_of_converts hp hp' hbad hall hrun hrun', and_iff_right hall]
  · have hnot : ∃ j ∈ pre ++ e :: post, ¬ Converts GpRecord.parseOne j := by simpa using hall
    refine Iff.trans ?_ (or_iff_right fun h => hall h.1).symm
    rw [endAlike_of_not_converts hp hp' hnot hrun hrun', and_iff_right hnot]

end

/-- One bad entry is isolated: it does not influence the rest of its response. -/
def BadEntryIsolated (X : Externals) : Prop :=
  ∀ hot rot s t body body' pre e post, Delivers (gpPoller X hot rot) s body →
    Delivers (gpPoller X hot rot) t body' → t.db = s.db →
    X.parse body = some (.arr (pre ++ e :: post)) → X.parse body' = some (.arr (pre ++ post)) →
    BadEntry X s.db.content pre e →
    EndAlike rot ((gpPoller X hot rot).run s).2.db ((gpPoller X hot rot).run t).2.db

namespace IsolationFixture

/-- A record of object `5`. -/
def good : Json :=
  .obj [("NORAD_CAT_ID", .str "5"), ("GP_ID", .str "100"), ("EPOCH", .str "2026-08-22")]

/-- An entry whose number is none. -/
def bad : Json := .obj [("NORAD_CAT_ID", .str "unknown")]

/-- The body with both entries, the bad one first. -/
def both : String := "[\x7b\"NORAD_CAT_ID\":\"unknown\"\x7d,\x7b\"NORAD_CAT_ID\":\"5\"\x7d]"

/-- The body without it. -/
def rest : String := "[\x7b\"NORAD_CAT_ID\":\"5\"\x7d]"

/-- Both bodies are parsed, and the one epoch is converted. -/
def externals : Externals :=
  .ofTables [(both, .arr [bad, good]), (rest, .arr [good])] [] [("2026-08-22", 0)]

/-- A process that gets a body on the catalogue of one object. -/
def start (body : String) : Session := .start (RotationFixture.catalogue 0) (calmEnv 0 body)

/-- The one process gets the whole body. -/
theorem delivers_both : Delivers (gpPoller externals [] [5]) (start both) both :=
  ⟨calmEnv_calm 0 both, _, rfl⟩

/-- The other process gets the body without the bad entry. -/
theorem delivers_rest : Delivers (gpPoller externals [] [5]) (start rest) rest :=
  ⟨calmEnv_calm 0 rest, _, rfl⟩

/-- The entry is bad whatever was stored before it: its number cannot be converted. -/
theorem badEntry (c : GpContent) : BadEntry externals c [] bad := by
  left
  rintro ⟨r, hr⟩
  have herr : GpRecord.parseOne bad = .error .invalidArgument := by decide +kernel
  rw [herr] at hr
  cases hr

end IsolationFixture

open IsolationFixture in
/-- The two runs end alike exactly when the condition holds of this response, which it does not. -/
theorem isolated_iff_unknown :
    EndAlike [5] ((gpPoller externals [] [5]).run (start both)).2.db
        ((gpPoller externals [] [5]).run (start rest)).2.db ↔
      IsolatedWhen externals [5] (start both).db [] bad [good] :=
  isolated_iff delivers_both delivers_rest rfl rfl rfl (badEntry _)

open IsolationFixture in
/-- The whole response is rejected, and the cursor stays behind its last target. -/
theorem not_badEntryIsolated : ¬ BadEntryIsolated externals := by
  intro h
  have hcur := (h [] [5] (start both) (start rest) both rest [] bad [good] delivers_both
    delivers_rest rfl rfl rfl (badEntry _)).advanced 5 rfl
  have hnone : ((gpPoller externals [] [5]).run (start both)).2.db.rotationCursor = none := by
    decide +kernel
  rw [hnone] at hcur
  cases hcur

/-! ## Bodies without records -/

/-- Nothing that a GP response writes was written. -/
structure Unmoved (db db' : Database) : Prop where
  snapshots : db'.snapshots = db.snapshots
  audtEvents : db'.audtEvents = db.audtEvents
  cursor : db'.rotationCursor = db.rotationCursor

/-- When a response moves nothing: its text is malformed, something visited does not convert, or the
cursor has nowhere to go and the tables refuse every record. -/
def UnmovedWhen (X : Externals) (rot : List Int) (db : Database) (body : String) : Prop :=
  X.parse body = none ∨ (∃ v ∈ visited X body, ¬ Converts GpRecord.parseOne v) ∨
  ((∀ n ∈ rot.getLast?, IsInt32 n → db.rotationCursor = some n) ∧
    ∀ v ∈ visited X body, ∀ r, GpRecord.parseOne v = .ok r → db.content.Refuses X r)

/-- Tables that only grew and have the same content did not grow. -/
theorem GpAppends.unmoved {db db' : Database} (h : GpAppends db db')
    (hcont : db'.content = db.content) :
    db'.snapshots = db.snapshots ∧ db'.audtEvents = db.audtEvents := by
  have hsnap := congrArg (fun c => c.snapshots.length) hcont
  have hev := congrArg (fun c => c.events.length) hcont
  simp only [Database.content, List.length_map] at hsnap hev
  refine ⟨(h.snapshots.eq_of_length hsnap.symm).symm, ?_⟩
  obtain ⟨rows, he, -⟩ := h.audtEvents
  rw [he, List.length_append] at hev
  have hnil : rows = [] := List.eq_nil_of_length_eq_zero (by omega)
  rw [he, hnil, List.append_nil]

section
variable {X : Externals} {hot rot : List Int} {s : Session} {body : String}

/-- Where the body is rejected as a whole the condition holds. -/
theorem unmovedWhen_of_error {db : Database} {err : Exn}
    (hp : parseGpResponse X body = .error err) :
    UnmovedWhen X rot db body := by
  have hnot : ¬ (X.parse body ≠ none ∧ ∀ v ∈ visited X body, Converts GpRecord.parseOne v) := by
    rw [← parseResponse_converts]
    rintro ⟨rs, hrs⟩
    exact absurd (hp.symm.trans hrs) nofun
  by_cases hparse : X.parse body = none
  · exact .inl hparse
  · right
    left
    simpa [hparse] using hnot

/-- A response that is not rejected moves nothing when its records are refused and the cursor
stays. -/
theorem unmovedWhen_of_ok {db : Database} {rs : List GpRecord}
    (hp : parseGpResponse X body = .ok rs) :
    UnmovedWhen X rot db body ↔
      GpContent.advanced rot db.rotationCursor = db.rotationCursor ∧
        ∀ r ∈ rs, db.content.Refuses X r := by
  obtain ⟨hparse, hrs⟩ := parseResponse_ok.1 hp
  have hconv : ∀ v ∈ visited X body, Converts GpRecord.parseOne v :=
    parseEntries_converts.1 ⟨rs, hrs⟩
  have hnone : ¬ ∃ v ∈ visited X body, ¬ Converts GpRecord.parseOne v := by simpa using hconv
  unfold UnmovedWhen
  rw [GpContent.advanced_eq_iff, forall_record_iff hrs, or_iff_right hparse, or_iff_right hnone]

/-- A response, whatever its body, moves nothing exactly under `UnmovedWhen`. -/
theorem unmoved_iff (h : Delivers (gpPoller X hot rot) s body) :
    Unmoved s.db ((gpPoller X hot rot).run s).2.db ↔ UnmovedWhen X rot s.db body := by
  have hgrow : GpAppends s.db ((gpPoller X hot rot).run s).2.db :=
    (run_onRun (p := gpPoller X hot rot) (gp_processResponse_within X rot) s).1
  have hrun := run_refines h
  cases hp : parseGpResponse X body with
  | error err =>
    rw [GpContent.respond_error hp] at hrun
    obtain ⟨hcont, hcur⟩ := Prod.ext_iff.1 hrun
    obtain ⟨hsnap, hev⟩ := hgrow.unmoved hcont
    exact iff_of_true ⟨hsnap, hev, hcur⟩ (unmovedWhen_of_error hp)
  | ok rs =>
    rw [GpContent.respond_ok hp] at hrun
    obtain ⟨hcont, hcur⟩ := Prod.ext_iff.1 hrun
    dsimp only at hcont hcur
    rw [unmovedWhen_of_ok hp]
    constructor
    · intro hun
      refine ⟨hcur.symm.trans hun.cursor, ?_⟩
      have hlen : (s.db.content.storeAll X rs).snapshots.length ≤
          s.db.content.snapshots.length := by
        rw [← hcont]
        simp only [Database.content, hun.snapshots]
        exact le_refl _
      exact (GpContent.storeAll_refused.1 hlen).1
    · rintro ⟨hstay, href⟩
      rw [GpContent.storeAll_of_refuses href] at hcont
      obtain ⟨hsnap, hev⟩ := hgrow.unmoved hcont
      exact ⟨hsnap, hev, hcur.trans hstay⟩

end

/-- A response that carries no GP records never moves the rotation. -/
def NoArrayUnmoved (X : Externals) : Prop :=
  ∀ hot rot s body, Delivers (gpPoller X hot rot) s body → (∀ es, X.parse body ≠ some (.arr es)) →
    Unmoved s.db ((gpPoller X hot rot).run s).2.db

namespace IsolationFixture

/-- An error answer of Space-Track. -/
def errorText : String := "\x7b\"error\":\"Rate limit exceeded\"\x7d"

/-- The answer is parsed to an object, over whose members the parser goes. -/
def errorExternals : Externals :=
  .ofTables [(errorText, .obj [("error", .str "Rate limit exceeded")])] [] []

/-- The process gets the answer with status 200. -/
theorem delivers_error : Delivers (gpPoller errorExternals [] [5]) (start errorText) errorText :=
  ⟨calmEnv_calm 0 errorText, _, rfl⟩

end IsolationFixture

open IsolationFixture in
/-- The answer moves the cursor, as the condition says. -/
theorem unmoved_iff_error :
    Unmoved (start errorText).db ((gpPoller errorExternals [] [5]).run (start errorText)).2.db ↔
      UnmovedWhen errorExternals [5] (start errorText).db errorText :=
  unmoved_iff delivers_error

open IsolationFixture in
/-- The message is read as a record without fields, which the database refuses, and the cursor
moves. -/
theorem not_noArrayUnmoved : ¬ NoArrayUnmoved errorExternals := by
  intro h
  have hcur := (h [] [5] (start errorText) errorText delivers_error (fun es => nofun)).cursor
  have hmoved : ((gpPoller errorExternals [] [5]).run (start errorText)).2.db.rotationCursor =
      some 5 := by decide +kernel
  rw [hmoved] at hcur
  exact absurd hcur (by decide +kernel)

end VitaleBackend
