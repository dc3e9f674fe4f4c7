import VitaleBackend.Poller.Catalogue
import VitaleBackend.Poller.Commits
import VitaleBackend.Poller.GpPart
import VitaleBackend.Poller.Request

/-!
# What goes over the wire

The lists of ids that the pollers write into texts: the targets in the URL of a GP request, and the
hot targets in the SQL of the rotation select. Both are read back as the lists that were written
(`targetsOf_buildQueryUrl`, `readExclusion_buildExclusionClause`). So a cron invocation sends at
most the SATCAT query and after it one GP query, for the targets of the tables of that time
(`main_sends`).
-/

namespace VitaleBackend

open Process Relational

/-! ## Lists of ids in a text -/

/-- The ids of a text between commas. -/
def readIds (s : List Char) : Option (List Int) := (s.splitOn ',').mapM wholeNumeral

section
variable {ids : List Int}

/-- The joined numbers, with commas between them. -/
theorem toList_joinIds (ids : List Int) : (GpPoller.joinIds ids).toList =
    [','].intercalate (ids.map fun id => (toString id).toList) := by
  induction ids using GpPoller.joinIds.induct with
  | case1 => rfl
  | case2 id => simp [GpPoller.joinIds]
  | case3 id ids hne ih =>
    cases ids with
    | nil => exact absurd rfl hne
    | cons id' ids =>
      rw [GpPoller.joinIds, String.toList_append, String.toList_append, ih]
      · simp
      · exact hne

/-- A numeral has digits and perhaps a sign. -/
theorem not_mem_toString {c : Char} (hdigit : c.isDigit = false) (hminus : c ≠ '-') (n : Int) :
    c ∉ (toString n).toList := by
  intro hc
  rw [toList_toString] at hc
  rcases isDigit_or_of_mem_padded hc with h | h
  · rw [hdigit] at h
    cases h
  · exact hminus h

/-- A printed integer is read as the whole numeral that it is. -/
theorem wholeNumeral_toString (n : Int) : wholeNumeral (toString n).toList = some n :=
  wholeNumeral_eq_some.2 ((beginsWithInt_toString n).spells_iff.2 (List.forall_mem_nil _))

/-- Joined ids are read back. -/
theorem readIds_joinIds (h : ids ≠ []) : readIds (GpPoller.joinIds ids).toList = some ids := by
  have hnumerals : ∀ s ∈ ids.map fun id => (toString id).toList, ',' ∉ s := by
    intro s hs
    obtain ⟨id, -, rfl⟩ := List.mem_map.1 hs
    exact not_mem_toString rfl (by decide) id
  rw [readIds, toList_joinIds, List.splitOn_intercalate ',' hnumerals (by simpa using h)]
  clear h hnumerals
  induction ids with
  | nil => rfl
  | cons id ids ih =>
    rw [List.map_cons, List.mapM_cons, wholeNumeral_toString, ih]
    rfl

/-- Joined ids do not contain this character. -/
theorem not_mem_joinIds {c : Char} (hdigit : c.isDigit = false) (hminus : c ≠ '-')
    (hcomma : c ≠ ',') (ids : List Int) : c ∉ (GpPoller.joinIds ids).toList := by
  induction ids using GpPoller.joinIds.induct with
  | case1 => exact List.not_mem_nil
  | case2 id => exact not_mem_toString hdigit hminus id
  | case3 id ids hne ih =>
    rw [GpPoller.joinIds, String.toList_append, String.toList_append]
    · simp only [List.mem_append, not_or]
      exact ⟨⟨not_mem_toString hdigit hminus id, fun h => hcomma (List.mem_singleton.1 h)⟩, ih⟩
    · exact hne

end

/-! ## The URL of a GP request -/

/-- The value of a predicate: the segment of the path after its name. -/
def predicateOf (name : String) : List (List Char) → Option (List Char)
  | key :: value :: rest =>
    if key = name.toList then some value else predicateOf name (value :: rest)
  | _ => none

/-- The ids that a query of Space-Track is for. -/
def targetsOf (url : String) : Option (List Int) :=
  (predicateOf "NORAD_CAT_ID" (url.toList.splitOn '/')).bind readIds

/-- The segments of a query URL in front of the ids. -/
def urlSegments : List String :=
  ["https:", "", "www.space-track.org", "basicspacedata", "query", "class", "gp", "NORAD_CAT_ID"]

/-- A GP query is for the ids that were written into it. -/
theorem targetsOf_buildQueryUrl {hot rot : List Int} {url : String}
    (h : GpPoller.buildQueryUrl hot rot = .ok url) : targetsOf url = some (hot ++ rot) := by
  unfold GpPoller.buildQueryUrl at h
  split at h
  · cases h
  · next hne =>
    cases h
    have hids : '/' ∉ (GpPoller.joinIds (hot ++ rot)).toList :=
      not_mem_joinIds rfl (by decide) (by decide) _
    have hurl : (GpPoller.kGpUrlPrefix ++ GpPoller.joinIds (hot ++ rot) ++
        "/decay_date/null-val/orderby/NORAD_CAT_ID/format/json").toList =
        ['/'].intercalate (urlSegments.map String.toList) ++ '/' ::
          ((GpPoller.joinIds (hot ++ rot)).toList ++
            '/' :: "decay_date/null-val/orderby/NORAD_CAT_ID/format/json".toList) := by
      simp [urlSegments, GpPoller.kGpUrlPrefix]
    rw [targetsOf, hurl, List.splitOn_append_cons_self, List.splitOn_append_cons_self,
      List.splitOn_eq_singleton hids,
      List.splitOn_intercalate '/' (by decide) (by decide)]
    show readIds (GpPoller.joinIds (hot ++ rot)).toList = _
    exact readIds_joinIds fun hnil => hne (List.append_eq_nil_iff.1 hnil)

/-! ## The SQL of the rotation select -/

namespace Sql

/-- `build_exclusion_clause`. -/
def buildExclusionClause (excludeIds : List Int) : String :=
  if excludeIds = [] then "" else
    " AND norad_cat_id NOT IN (" ++ GpPoller.joinIds excludeIds ++ ")"

/-- The ids that a clause after a `WHERE` excludes. -/
def readExclusion (clause : String) : Option (List Int) :=
  match clause.toList.splitOn '(' with
  | [[]] => some []
  | [words, ids] =>
    if words = " AND norad_cat_id NOT IN ".toList ∧ ids.getLast? = some ')' then
      readIds ids.dropLast
    else none
  | _ => none

/-- The clause excludes the ids that were written into it, whatever they are. -/
theorem readExclusion_buildExclusionClause (excludeIds : List Int) :
    readExclusion (buildExclusionClause excludeIds) = some excludeIds := by
  unfold buildExclusionClause
  split
  · next h =>
    rw [h]
    rfl
  · next h =>
    have hclause : (" AND norad_cat_id NOT IN (" ++ GpPoller.joinIds excludeIds ++ ")").toList =
        " AND norad_cat_id NOT IN ".toList ++
          '(' :: ((GpPoller.joinIds excludeIds).toList ++ [')']) := by
      simp
    have hids : '(' ∉ (GpPoller.joinIds excludeIds).toList ++ [')'] := by
      simpa using not_mem_joinIds rfl (by decide) (by decide) excludeIds
    rw [readExclusion, hclause, List.splitOn_append_cons_self, List.splitOn_eq_singleton hids,
      List.splitOn_eq_singleton (by decide)]
    show (if _ = _ ∧ ((GpPoller.joinIds excludeIds).toList ++ [')']).getLast? = some ')' then
      readIds ((GpPoller.joinIds excludeIds).toList ++ [')']).dropLast else none) = _
    rw [if_pos ⟨rfl, List.getLast?_concat⟩, List.dropLast_concat]
    exact readIds_joinIds h

end Sql

/-! ## What a process sends -/

/-- The targets of a GP run on these tables. -/
def gpTargets (db : Database) : List Int :=
  let hot := Sql.topGpHotTargets kGpMaxHotSlots db
  hot ++ Sql.nextGpRotationBatch (kGpBatchSize - hot.length) hot db

/-- A query for the targets of these tables, which are at most 500 undecayed objects. -/
structure AsksFor (db : Database) (url : String) : Prop where
  targets : targetsOf url = some (gpTargets db)
  length_le : (gpTargets db).length ≤ kGpBatchSize
  undecayed : ∀ x ∈ gpTargets db, Undecayed db x

/-- The targets fit the batch. -/
theorem gpTargets_length_le (db : Database) : (gpTargets db).length ≤ kGpBatchSize := by
  have hhot : (Sql.topGpHotTargets kGpMaxHotSlots db).length ≤ kGpMaxHotSlots :=
    Sql.topGpHotTargets_length _ _
  have hrot : ∀ n ids, (Sql.nextGpRotationBatch n ids db).length ≤ n := by
    intro n ids
    have hprimary : (Sql.primaryTargets n ids db).length ≤ n := Sql.selectTargets_length_le
    by_cases hshort : (Sql.primaryTargets n ids db).length < n
    · have hwrap : (Sql.selectTargets db.objects none ids
          (n - (Sql.primaryTargets n ids db).length)).length ≤ _ := Sql.selectTargets_length_le
      rw [Sql.nextGpRotationBatch_wrap hshort, List.length_append]
      omega
    · rw [Sql.nextGpRotationBatch_full hshort]
      exact hprimary
  have hlen := hrot (kGpBatchSize - (Sql.topGpHotTargets kGpMaxHotSlots db).length)
    (Sql.topGpHotTargets kGpMaxHotSlots db)
  rw [gpTargets, List.length_append]
  unfold kGpMaxHotSlots at hhot hlen ⊢
  unfold kGpBatchSize at hlen ⊢
  omega

/-- None of them is decayed. -/
theorem gpTargets_undecayed (db : Database) : ∀ x ∈ gpTargets db, Undecayed db x :=
  GpRun.requested_undecayed (r := .on (.start db (calmEnv 0 ""))) rfl

/-- A process sends at most one more GET request, for such a URL. -/
def SendsOne (P : String → Prop) (s s' : Session) : Prop :=
  ∃ more, s'.sent = s.sent ++ more ∧ more.length ≤ 1 ∧ ∀ m ∈ more, P m.2

section
variable {P : String → Prop} {x : Job α} {f : α → Job β}

/-- Work that sends nothing sends no more than one query. -/
theorem SendsOne.of_sent {s s' : Session} (h : s'.sent = s.sent) : SendsOne P s s' :=
  ⟨[], by rw [h, List.append_nil], Nat.zero_le _, List.forall_mem_nil _⟩

/-- A first part that sends nothing. -/
theorem sendsOne_after (hx : Proc.Within (OnDb AnyDb) x)
    (hf : ∀ a, Proc.Within (SendsOne P) (f a)) : Proc.Within (SendsOne P) (x >>= f) := by
  refine hx.bind_of hf (fun s t u hst htu => ?_) fun s t hst => .of_sent hst.sent
  obtain ⟨more, hsent, h⟩ := htu
  exact ⟨more, hsent.trans (by rw [hst.sent]), h⟩

/-- A last part that sends nothing. -/
theorem sendsOne_before (hx : Proc.Within (SendsOne P) x)
    (hf : ∀ a, Proc.Within (OnDb AnyDb) (f a)) : Proc.Within (SendsOne P) (x >>= f) := by
  refine hx.bind_of hf (fun s t u hst htu => ?_) fun _ _ => id
  obtain ⟨more, hsent, h⟩ := hst
  exact ⟨more, htu.sent.trans hsent, h⟩

end

/-- A GET request sends its own query. -/
theorem get_sendsOne {P : String → Prop} {url : String} (h : P url) :
    Proc.Within (SendsOne P) (get url) := by
  intro s
  unfold get
  rw [Proc.bind_ok (Proc.read_run _ s)]
  split
  · rcases request_cases "GET" url s with ⟨response, hr⟩ | hr
    · rw [Proc.bind_ok hr]
      exact ⟨[(s.call.now, url)], rfl, le_refl _, List.forall_mem_singleton.2 h⟩
    · rw [Proc.bind_stopped hr]
      exact .of_sent rfl
  · exact .of_sent rfl

/-- A run of a poller sends at most its own query. -/
theorem run_sendsOne {p : Poller} (h : ∀ body, Proc.Within (OnDb AnyDb) (p.processResponse body)) :
    Proc.Within (SendsOne fun url => p.buildQueryUrl = .ok url) p.run := by
  refine sendsOne_before (sendsOne_after (ensureLoggedIn_onDb p) fun l => ?_) fun r => ?_
  · split
    · cases hurl : p.buildQueryUrl with
      | error e => exact fun s => .of_sent rfl
      | ok url =>
        rw [Proc.ofExcept_ok, pure_bind]
        refine sendsOne_before (get_sendsOne rfl) fun r => ?_
        cases r with
        | error text => exact (logError_onDb _).bind fun _ => .pure _
        | ok body => exact .pure _
    · exact fun s => .of_sent rfl
  · cases r with
    | none => exact .pure _
    | some body => exact handle_onDb h body

/-- The GP part of `main` sends at most a query for the targets of the tables that it finds. -/
theorem runGp_sendsOne (X : Externals) (s : Session) :
    SendsOne (AsksFor s.db) s (runGp X s).2 := by
  unfold runGp DbWriter.topGpHotTargets DbWriter.nextGpRotationBatch
  rcases query_cases (fun _ db => Sql.topGpHotTargets kGpMaxHotSlots db) s with h | ⟨e, h⟩ | h
  · rw [Proc.bind_ok h]
    rcases query_cases (fun _ db => Sql.nextGpRotationBatch
        (kGpBatchSize - (Sql.topGpHotTargets kGpMaxHotSlots s.db).length)
        (Sql.topGpHotTargets kGpMaxHotSlots s.db) db) s.next with h' | ⟨e, h'⟩ | h'
    · rw [Proc.bind_ok h']
      obtain ⟨more, hsent, hlen, hmore⟩ := run_sendsOne (p := gpPoller X _ _)
        (fun body s => ⟨anyDb _ _, (gp_processResponse_within X _ body s).env,
          (gp_processResponse_within X _ body s).used,
          (gp_processResponse_within X _ body s).sent⟩) s.next.next
      exact ⟨more, hsent, hlen, fun m hm => ⟨targetsOf_buildQueryUrl (hmore m hm),
        gpTargets_length_le s.db, gpTargets_undecayed s.db⟩⟩
    · rw [Proc.bind_error h']
      exact .of_sent rfl
    · rw [Proc.bind_stopped h']
      exact .of_sent rfl
  · rw [Proc.bind_error h]
    exact .of_sent rfl
  · rw [Proc.bind_stopped h]
    exact .of_sent rfl

/-- What a cron invocation may send: at most the SATCAT query, and after it at most one GP query,
which is for the targets of the tables that the invocation has when it comes to its GP part. -/
def SendsQueries (X : Externals) (s s' : Session) : Prop :=
  ∃ satcat gp, s'.sent = s.sent ++ (satcat ++ gp) ∧
    (satcat.length ≤ 1 ∧ ∀ m ∈ satcat, m.2 = kSatcatUrl) ∧
    gp.length ≤ 1 ∧ ∀ m ∈ gp, ∃ t, s.gpStart X = some t ∧ Commits X s.db t.db ∧ AsksFor t.db m.2

/-- Up to its GP part an invocation sends at most the SATCAT query. -/
theorem beforeGp_sends (X : Externals) :
    Proc.Within (fun s t => Commits X s.db t.db ∧ SendsOne (· = kSatcatUrl) s t) (beforeGp X) := by
  have hschedule : Proc.Within (OnDb (Commits X)) (perform mainSchedule .none) :=
    perform_onDb (fun pollerName now db => .single (.stamp pollerName now db)) mainSchedule .none
  have hsatcat : ∀ due, Proc.Within
      (fun s t => Commits X s.db t.db ∧ SendsOne (· = kSatcatUrl) s t)
      (whenDue due (satcatPoller X).run) := by
    intro due s
    cases due with
    | false => exact ⟨.refl, .of_sent rfl⟩
    | true =>
      refine ⟨(run_onRun (p := satcatPoller X) (satcat_processResponse_within X
        fun _ _ _ _ _ h => .single (.batch h)) s).db, ?_⟩
      obtain ⟨more, hsent, hlen, hmore⟩ := run_sendsOne (p := satcatPoller X)
        (satcat_processResponse_onDb X fun _ _ db db' _ => anyDb db db') s
      exact ⟨more, hsent, hlen, fun m hm => (Except.ok.inj (hmore m hm)).symm⟩
  refine beforeGp_within hschedule hsatcat (fun s t u hst htu => ?_) fun s t hst =>
    ⟨hst.db, .of_sent hst.sent⟩
  obtain ⟨hcommits, more, hsent, hmore⟩ := htu
  exact ⟨Relation.ReflTransGen.trans hst.db hcommits, more, hsent.trans (by rw [hst.sent]), hmore⟩

/-- Every cron invocation, whatever fails, sends at most the SATCAT query and after it at most one
GP query. This one asks for exactly the targets of the tables as they are when the SATCAT run is
over: at most 500 undecayed objects, and no others. -/
theorem main_sends (X : Externals) (s : Session) : SendsQueries X s (main X s).2 := by
  rcases main_cases (beforeGp_sends X) s with
    ⟨t, ht, ⟨hcommits, satcat, hsent, hsatcat⟩, -, hmain⟩ |
      ⟨-, t, ⟨-, satcat, hsent, hsatcat⟩, -, hmain⟩
  · -- the two parts send, one after the other
    obtain ⟨gp, hsent', hlen, hgp⟩ := runGp_sendsOne X t
    refine ⟨satcat, gp, ?_, hsatcat, hlen, fun m hm => ⟨t, ht, hcommits, hgp m hm⟩⟩
    rw [hmain, hsent', hsent, List.append_assoc]
  · refine ⟨satcat, [], ?_, hsatcat, Nat.zero_le _, List.forall_mem_nil _⟩
    rw [hmain, hsent, List.append_nil]

end VitaleBackend
