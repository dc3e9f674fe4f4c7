import VitaleBackend.Api.Catalog

/-!
# `CorsMiddleware`

After every route the middleware adds its headers to the response: an allowed origin is reflected,
and only then does the response say `Vary: Origin`. Two responses that differ say so both exactly
when both origins are allowed or neither is (`originDependence_said_iff`); the response to the other
origins can be stored, and be served to an allowed one (`SharedCache`).
-/

namespace VitaleBackend

/-! ## The middleware -/

/-- The headers of a `crow::response`, in the order in which they were added. -/
structure Response where
  headers : List (String × String) := []
  deriving DecidableEq

/-- `res.add_header`: a header of that name which is there stays. -/
def Response.addHeader (res : Response) (name value : String) : Response :=
  { res with headers := res.headers ++ [(name, value)] }

/-- `add_header` appends, and never replaces a header of the same name. -/
@[simp] theorem Response.addHeader_headers (res : Response) (name value : String) :
    (res.addHeader name value).headers = res.headers ++ [(name, value)] := rfl

/-- The middleware: the origins that were read from the environment when the service started. -/
structure CorsMiddleware where
  allowedOrigins : List String

/-- `parse_origin_list`. -/
def parseOriginList (csv : String) : List String :=
  (((csv.toList.splitOn ',').map trimBlanks).filter (· ≠ [])).map String.ofList

/-- `allowed_origins_from_env`, from the value of `CORS_ALLOWED_ORIGINS`. -/
def allowedOriginsFromEnv (env : Option String) : List String :=
  match env.filter (· ≠ "") with
  | some csv => parseOriginList csv
  | none =>
    ["https://vitaleaerospace.com",
     "https://www.vitaleaerospace.com",
     "https://vitale-frontend.vercel.app",
     "http://localhost:5173"]

namespace CorsMiddleware

/-- The constructor. -/
def ofEnv (env : Option String) : CorsMiddleware := ⟨allowedOriginsFromEnv env⟩

variable (m : CorsMiddleware)

/-- `origin_allowed`; the origin is empty when the request has none. -/
def originAllowed (origin : String) : Bool := origin ≠ "" && origin ∈ m.allowedOrigins

/-- `after_handle`. -/
def afterHandle (origin : String) (res : Response) : Response :=
  let res :=
    if m.originAllowed origin then
      (res.addHeader "Access-Control-Allow-Origin" origin).addHeader "Vary" "Origin"
    else res
  (res.addHeader "Access-Control-Allow-Methods" "GET, OPTIONS").addHeader
    "Access-Control-Allow-Headers" "Content-Type"

/-- The headers that `after_handle` adds. -/
def corsHeaders (origin : String) : List (String × String) :=
  (if m.originAllowed origin then
    [("Access-Control-Allow-Origin", origin), ("Vary", "Origin")] else []) ++
  [("Access-Control-Allow-Methods", "GET, OPTIONS"),
   ("Access-Control-Allow-Headers", "Content-Type")]

variable {m} {origin o₁ o₂ : String} {res : Response}

/-- After the middleware a response has the headers of the route, and behind them those of the
middleware. -/
theorem afterHandle_headers :
    (m.afterHandle origin res).headers = res.headers ++ m.corsHeaders origin := by
  unfold afterHandle corsHeaders
  split <;> simp

/-- To an allowed origin the response names it and says that it varies with the origin. -/
theorem corsHeaders_allowed (h : m.originAllowed origin = true) : m.corsHeaders origin =
    [("Access-Control-Allow-Origin", origin), ("Vary", "Origin"),
     ("Access-Control-Allow-Methods", "GET, OPTIONS"),
     ("Access-Control-Allow-Headers", "Content-Type")] := by
  rw [corsHeaders, if_pos h]
  rfl

/-- To any other origin it says neither, so that a shared cache may hand it to anybody. -/
theorem corsHeaders_not_allowed (h : ¬ m.originAllowed origin = true) : m.corsHeaders origin =
    [("Access-Control-Allow-Methods", "GET, OPTIONS"),
     ("Access-Control-Allow-Headers", "Content-Type")] := by
  rw [corsHeaders, if_neg h]
  rfl

/-- The middleware tells two origins apart, unless they are one or neither is allowed. -/
theorem afterHandle_headers_eq_iff :
    (m.afterHandle o₁ res).headers = (m.afterHandle o₂ res).headers ↔
      o₁ = o₂ ∨ (¬ m.originAllowed o₁ = true ∧ ¬ m.originAllowed o₂ = true) := by
  rw [afterHandle_headers, afterHandle_headers, List.append_cancel_left_eq]
  by_cases h₁ : m.originAllowed o₁ = true <;> by_cases h₂ : m.originAllowed o₂ = true
  · simp [corsHeaders_allowed h₁, corsHeaders_allowed h₂, h₁]
  · have hne : o₁ ≠ o₂ := fun h => h₂ (h ▸ h₁)
    simp [corsHeaders_allowed h₁, corsHeaders_not_allowed h₂, hne, h₁]
  · have hne : o₁ ≠ o₂ := fun h => h₁ (h ▸ h₂)
    simp [corsHeaders_not_allowed h₁, corsHeaders_allowed h₂, hne, h₂]
  · simp [corsHeaders_not_allowed h₁, corsHeaders_not_allowed h₂, h₁, h₂]

end CorsMiddleware

/-! ## Caches -/

/-- A header of that name, in any case, lists a value, in any case. -/
def Response.Lists (res : Response) (name value : String) : Prop :=
  ∃ header ∈ res.headers, header.1.toLower = name ∧
    ∃ token ∈ header.2.toList.splitOn ',', (String.ofList (trimBlanks token)).toLower = value

/-- The response says `Vary: Origin`. -/
def Response.VariesOnOrigin (res : Response) : Prop := res.Lists "vary" "origin"

/-- The response says `Cache-Control: public`. -/
def Response.IsPublic (res : Response) : Prop := res.Lists "cache-control" "public"

/-- A shared cache may serve a stored response, which it got for one origin, to another: it is
public, and does not say that it depends on the origin. -/
def SharedCache.MayServe (stored : Response) (storedFor origin : String) : Prop :=
  stored.IsPublic ∧ (stored.VariesOnOrigin → storedFor = origin)

/-- A header is listed or not, whatever the case of its name: the list is finite. -/
instance (res : Response) (name value : String) : Decidable (res.Lists name value) :=
  inferInstanceAs (Decidable (∃ header ∈ res.headers, _ ∧ ∃ token ∈ _, _))

/-- A header added lists what it lists itself, besides what was listed. -/
theorem Response.lists_addHeader {res : Response} {n v name value : String} :
    (res.addHeader n v).Lists name value ↔
      res.Lists name value ∨ (⟨[(n, v)]⟩ : Response).Lists name value := by
  unfold Response.Lists
  simp only [Response.addHeader_headers, List.mem_append, or_and_right, exists_or]

/-- A header of another name lists nothing under this one. -/
theorem Response.not_lists_of_name {n v name value : String} (h : n.toLower ≠ name) :
    ¬ (⟨[(n, v)]⟩ : Response).Lists name value := by
  rintro ⟨_, hmem, hname, -⟩
  rw [List.mem_singleton.1 hmem] at hname
  exact h hname

/-- A response varies on the origin when its origin is allowed, or the route said so. -/
theorem CorsMiddleware.variesOnOrigin_iff {m : CorsMiddleware} {origin : String} {res : Response} :
    (m.afterHandle origin res).VariesOnOrigin ↔
      m.originAllowed origin = true ∨ res.VariesOnOrigin := by
  have hvary : (⟨[("Vary", "Origin")]⟩ : Response).Lists "vary" "origin" := by decide +kernel
  have hmethods : ¬ (⟨[("Access-Control-Allow-Methods", "GET, OPTIONS")]⟩ : Response).Lists "vary"
      "origin" := Response.not_lists_of_name (by decide +kernel)
  have hheaders : ¬ (⟨[("Access-Control-Allow-Headers", "Content-Type")]⟩ : Response).Lists "vary"
      "origin" := Response.not_lists_of_name (by decide +kernel)
  unfold Response.VariesOnOrigin CorsMiddleware.afterHandle
  split
  · next h => simp [Response.lists_addHeader, hvary, h]
  · next h => simp [Response.lists_addHeader, hmethods, hheaders, h]

/-! ## What responses say of the origin -/

/-- Two responses to requests that differ in their origin: if they differ, both say so, and a shared
cache serves neither to the other origin. -/
structure OriginDependenceSaid (m : CorsMiddleware) (res : Response) (o₁ o₂ : String) : Prop where
  vary : (m.afterHandle o₁ res).headers ≠ (m.afterHandle o₂ res).headers →
    (m.afterHandle o₁ res).VariesOnOrigin ∧ (m.afterHandle o₂ res).VariesOnOrigin
  cache : (m.afterHandle o₁ res).headers ≠ (m.afterHandle o₂ res).headers →
    ¬ SharedCache.MayServe (m.afterHandle o₁ res) o₁ o₂ ∧
      ¬ SharedCache.MayServe (m.afterHandle o₂ res) o₂ o₁

/-- The responses to two origins say that they depend on it exactly when both origins are allowed or
neither is, or the route says it. -/
theorem originDependence_said_iff (m : CorsMiddleware) (res : Response) (o₁ o₂ : String) :
    OriginDependenceSaid m res o₁ o₂ ↔
      m.originAllowed o₁ = m.originAllowed o₂ ∨ res.VariesOnOrigin := by
  have hiff : (m.afterHandle o₁ res).headers ≠ (m.afterHandle o₂ res).headers ↔
      o₁ ≠ o₂ ∧ (m.originAllowed o₁ = true ∨ m.originAllowed o₂ = true) := by
    rw [Ne, CorsMiddleware.afterHandle_headers_eq_iff, not_or, not_and_or, not_not, not_not]
  constructor
  · intro h
    by_contra hno
    rw [not_or] at hno
    -- one of the two origins is allowed, and the response to the other does not vary
    have hne : o₁ ≠ o₂ := fun heq => hno.1 (heq ▸ rfl)
    have hone : m.originAllowed o₁ = true ∨ m.originAllowed o₂ = true := by
      by_contra hnone
      rw [not_or, Bool.not_eq_true, Bool.not_eq_true] at hnone
      exact hno.1 (hnone.1.trans hnone.2.symm)
    obtain ⟨hvary₁, hvary₂⟩ := h.vary (hiff.2 ⟨hne, hone⟩)
    rw [CorsMiddleware.variesOnOrigin_iff, or_iff_left hno.2] at hvary₁ hvary₂
    exact hno.1 (hvary₁.trans hvary₂.symm)
  · intro h
    have hvary : (m.afterHandle o₁ res).headers ≠ (m.afterHandle o₂ res).headers →
        (m.afterHandle o₁ res).VariesOnOrigin ∧ (m.afterHandle o₂ res).VariesOnOrigin := by
      intro hdiffer
      rw [CorsMiddleware.variesOnOrigin_iff, CorsMiddleware.variesOnOrigin_iff]
      rcases h with hsame | hroute
      · have hone := (hiff.1 hdiffer).2
        rw [hsame, or_self] at hone
        exact ⟨.inl (hsame.trans hone), .inl hone⟩
      · exact ⟨.inr hroute, .inr hroute⟩
    refine ⟨hvary, fun hdiffer => ⟨fun hserve => ?_, fun hserve => ?_⟩⟩
    · exact (hiff.1 hdiffer).1 (hserve.2 (hvary hdiffer).1)
    · exact (hiff.1 hdiffer).1 (hserve.2 (hvary hdiffer).2).symm

/-! ## The catalogue -/

/-- `set_catalog_cache_headers`. -/
def setCatalogCacheHeaders (res : Response) (headers : CacheHeaders) : Response :=
  ((res.addHeader "Cache-Control" headers.cacheControl).addHeader "ETag" headers.etag).addHeader
    "Last-Modified" headers.lastModified

/-- A shared cache may serve the catalogue that it got for one origin to another exactly when that
origin is not allowed. -/
theorem mayServe_catalog_iff {m : CorsMiddleware} {info : CatalogMeta} {o₁ o₂ : String} :
    SharedCache.MayServe
        (m.afterHandle o₁ (setCatalogCacheHeaders {} (catalogHeaders info))) o₁ o₂ ↔
      ¬ m.originAllowed o₁ = true ∨ o₁ = o₂ := by
  have hvary : ¬ (setCatalogCacheHeaders {} (catalogHeaders info)).VariesOnOrigin := by
    unfold Response.VariesOnOrigin setCatalogCacheHeaders
    simp only [Response.lists_addHeader, not_or]
    exact ⟨⟨⟨nofun, Response.not_lists_of_name (by decide +kernel)⟩,
      Response.not_lists_of_name (by decide +kernel)⟩,
      Response.not_lists_of_name (by decide +kernel)⟩
  have hpublic : (m.afterHandle o₁ (setCatalogCacheHeaders {} (catalogHeaders info))).IsPublic := by
    refine ⟨("Cache-Control", "public, max-age=86400"), ?_, by decide +kernel, by decide +kernel⟩
    rw [CorsMiddleware.afterHandle_headers]
    exact List.mem_append_left _ (.head _)
  rw [SharedCache.MayServe, and_iff_right hpublic, CorsMiddleware.variesOnOrigin_iff,
    or_iff_left hvary, imp_iff_not_or]

/-- Every response that depends on the origin says so. -/
def OriginDependenceAlwaysSaid : Prop := ∀ (env : Option String) (res : Response) (o₁ o₂ : String),
  OriginDependenceSaid (.ofEnv env) res o₁ o₂

/-- The catalogue that a request without an origin got is served to the production frontend, without
the header that lets the frontend read it. -/
theorem not_originDependenceAlwaysSaid : ¬ OriginDependenceAlwaysSaid := by
  intro h
  have hsaid := h none (setCatalogCacheHeaders {} (catalogHeaders (.of 0 1))) ""
    "https://vitaleaerospace.com"
  have hallowed : (CorsMiddleware.ofEnv none).originAllowed "https://vitaleaerospace.com" = true := by
    decide +kernel
  have hdiffer : ((CorsMiddleware.ofEnv none).afterHandle ""
        (setCatalogCacheHeaders {} (catalogHeaders (.of 0 1)))).headers ≠
      ((CorsMiddleware.ofEnv none).afterHandle "https://vitaleaerospace.com"
        (setCatalogCacheHeaders {} (catalogHeaders (.of 0 1)))).headers :=
        mt CorsMiddleware.afterHandle_headers_eq_iff.1
    (not_or.2 ⟨by decide, fun hnone => hnone.2 hallowed⟩)
  exact (hsaid.cache hdiffer).1 (mayServe_catalog_iff.2 (.inl (by decide +kernel)))

end VitaleBackend
