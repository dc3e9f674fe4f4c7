import VitaleBackend.Api.Cors
import VitaleBackend.Lib.Split

/-!
# Configured origins

The list of `CORS_ALLOWED_ORIGINS` is split at its commas and stripped of the blanks around its
entries. The middleware reflects an origin exactly when it is an entry (`origin_reflected_iff`).
-/

namespace VitaleBackend

open Splitting

/-- An entry of a list: between commas or the ends of the text, with blanks around it, and without a
comma, or a blank at its own ends. -/
def IsEntry (csv o : List Char) : Prop :=
  ∃ pre before after post, csv = pre ++ (before ++ (o ++ (after ++ post))) ∧
    (∀ c ∈ before, isBlank c = true) ∧ (∀ c ∈ after, isBlank c = true) ∧ ',' ∉ o ∧
    (∀ c ∈ o.head?, isBlank c = false) ∧ (∀ c ∈ o.getLast?, isBlank c = false) ∧
    (pre = [] ∨ ∃ u, pre = u ++ [',']) ∧ (post = [] ∨ ∃ v, post = ',' :: v)

/-- An entry is a piece of the list without the blanks around it, and the blanks of the grammar are
those that `parse_origin_list` trims. -/
theorem isEntry_iff {csv o : List Char} :
    IsEntry csv o ↔ ∃ item, IsPiece ',' csv item ∧ IsStripped isBlank item o := by
  constructor
  · rintro ⟨pre, before, after, post, hcsv, hbefore, hafter, ho, hhead, hlast, hpre, hpost⟩
    refine ⟨before ++ (o ++ after), ⟨?_, pre, post, by simp [hcsv], hpre, hpost⟩, before, after,
      rfl, hbefore, hafter, hhead, hlast⟩
    simp only [List.mem_append, not_or]
    exact ⟨fun h => absurd (hbefore _ h) (by decide), ho, fun h => absurd (hafter _ h) (by decide)⟩
  · rintro ⟨item, ⟨hitem, pre, post, hcsv, hpre, hpost⟩, before, after, rfl, hbefore, hafter, hhead,
      hlast⟩
    simp only [List.mem_append, not_or] at hitem
    exact ⟨pre, before, after, post, by simp [hcsv], hbefore, hafter, hitem.2.1, hhead, hlast, hpre,
      hpost⟩

/-- The configured origins are the entries that are not empty. -/
theorem mem_parseOriginList {csv o : String} :
    o ∈ parseOriginList csv ↔ o ≠ "" ∧ IsEntry csv.toList o.toList := by
  have hlist : o ∈ parseOriginList csv ↔
      o ≠ "" ∧ ∃ item ∈ csv.toList.splitOn ',', trimBlanks item = o.toList := by
    rw [parseOriginList, List.mem_map]
    constructor
    · rintro ⟨s, hs, rfl⟩
      simp only [List.mem_filter, List.mem_map, decide_eq_true_eq] at hs
      obtain ⟨⟨item, hitem, htrim⟩, hne⟩ := hs
      rw [String.toList_ofList]
      exact ⟨fun h => hne (String.ofList_eq_empty_iff.1 h), item, hitem, htrim⟩
    · rintro ⟨hne, item, hitem, htrim⟩
      refine ⟨o.toList, ?_, String.ofList_toList⟩
      simp only [List.mem_filter, List.mem_map, decide_eq_true_eq]
      exact ⟨⟨item, hitem, htrim⟩, fun h => hne (String.toList_eq_nil_iff.1 h)⟩
  rw [hlist, isEntry_iff]
  refine and_congr_right fun hne => exists_congr fun item => and_congr mem_splitOn_iff ?_
  exact strip_eq_iff fun h => hne (String.toList_eq_nil_iff.1 h)

/-- A list that is set and not empty is parsed. Otherwise the default list stands in for it. -/
theorem allowedOriginsFromEnv_some {csv : String} (h : csv ≠ "") :
    allowedOriginsFromEnv (some csv) = parseOriginList csv := by
  have hfilter : (some csv).filter (· ≠ "") = some csv := by
    simp [Option.filter, h]
  rw [allowedOriginsFromEnv, hfilter]

/-- `after_handle` adds the header with the origin of the request exactly when the origin is an
entry of `CORS_ALLOWED_ORIGINS`, and with no other value. -/
theorem origin_reflected_iff (csv origin : String) (hcsv : csv ≠ "") (res : Response) :
    ∃ added, ((CorsMiddleware.ofEnv (some csv)).afterHandle origin res).headers =
        res.headers ++ added ∧
      ∀ value, ("Access-Control-Allow-Origin", value) ∈ added ↔
        value = origin ∧ origin ≠ "" ∧ IsEntry csv.toList origin.toList := by
  refine ⟨_, CorsMiddleware.afterHandle_headers, fun value => ?_⟩
  have horigins : (CorsMiddleware.ofEnv (some csv)).allowedOrigins = parseOriginList csv :=
    allowedOriginsFromEnv_some hcsv
  have hallowed : (CorsMiddleware.ofEnv (some csv)).originAllowed origin = true ↔
      origin ≠ "" ∧ IsEntry csv.toList origin.toList := by
    rw [CorsMiddleware.originAllowed, horigins, Bool.and_eq_true, decide_eq_true_eq,
      decide_eq_true_eq, mem_parseOriginList, ← and_assoc, and_self]
  rw [← hallowed]
  by_cases h : (CorsMiddleware.ofEnv (some csv)).originAllowed origin = true
  · simp [CorsMiddleware.corsHeaders_allowed h, h]
  · simp [CorsMiddleware.corsHeaders_not_allowed h, h]

/-- A list with an empty entry, a blank one and a trailing comma. -/
theorem origin_reflected_of_list :
    ∃ added, ((CorsMiddleware.ofEnv (some "https://a.com,, \t,\thttps://b.com ,")).afterHandle
        "https://b.com" {}).headers = [] ++ added ∧
      ∀ value, ("Access-Control-Allow-Origin", value) ∈ added ↔
        value = "https://b.com" ∧ "https://b.com" ≠ "" ∧
          IsEntry "https://a.com,, \t,\thttps://b.com ,".toList "https://b.com".toList :=
  origin_reflected_iff _ _ (by decide) {}

end VitaleBackend
