import VitaleBackend.Api.Catalog

/-!
# `Last-Modified` and `If-Modified-Since`

A client shows the `Last-Modified` of an answer in a later request. Every date of the years 0 to
9999 is read back as it was written, so that the handler compares the two generation times
themselves (`httpDates_roundTrip`).
-/

namespace VitaleBackend

/-- A time of the years that four digits write. -/
structure FourDigitYear (t : Int) : Prop where
  nonneg : 0 ≤ (gmtimeR t).year + 1900
  le : (gmtimeR t).year + 1900 ≤ 9999

/-! ## Echoes -/

/-- The `Last-Modified` of a response. -/
def CatalogResponse.lastModified? : CatalogResponse → Option String
  | .notModified headers => some headers.lastModified
  | .ok headers _ _ _ => some headers.lastModified
  | .internalError _ => none

/-- A request that shows the `Last-Modified` of a response, and no tag. -/
structure Echoes (req : CatalogRequest) (response : CatalogResponse) : Prop where
  ifNoneMatch : req.ifNoneMatch = ""
  ifModifiedSince : response.lastModified? = some req.ifModifiedSince

section
variable {X : Externals} {req req' : CatalogRequest} {now : Timestamp} {db : Database}

/-- The `Last-Modified` of a response is that of the generation time. -/
theorem lastModified_catalog : (catalog X req (.ok now) db).lastModified? =
    some (formatHttpDate (extractEpoch (genTs now db))) := by
  rw [catalog, catalogResponse]
  split <;> rfl

/-- A request that is found modified is answered with 200. -/
theorem catalog_ok (h : ¬ notModified req (catalogMeta now db) = true) :
    ∃ headers generatedAt count objects,
      catalog X req (.ok now) db = .ok headers generatedAt count objects := by
  rw [catalog, catalogResponse, if_neg h]
  exact ⟨_, _, _, _, rfl⟩

end

/-- The answers to the date of an earlier response: 304 when the generation time is the same second
as then, 200 when it is a later one. -/
structure EchoAnswered (X : Externals) (t : Int) (req : CatalogRequest) (now : Timestamp)
    (db : Database) : Prop where
  unchanged : extractEpoch (genTs now db) = t →
    ∃ headers, catalog X req (.ok now) db = .notModified headers
  earlier : t < extractEpoch (genTs now db) → ∃ headers generatedAt count objects,
    catalog X req (.ok now) db = .ok headers generatedAt count objects

/-- A date of the years 0 to 9999 is read back as it was written, and a client that shows it gets a
304 as long as the generation time is unchanged. -/
theorem httpDates_roundTrip {t : Int} (ht : FourDigitYear t) :
    parseHttpDate (formatHttpDate t) = some t ∧
      ∀ X req₀ now₀ db₀ req now db, extractEpoch (genTs now₀ db₀) = t →
        Echoes req (catalog X req₀ (.ok now₀) db₀) → EchoAnswered X t req now db := by
  have hyear : IsScannedYear ((gmtimeR t).year + 1900) := by
    obtain ⟨hnonneg, hle⟩ := ht
    unfold IsScannedYear
    omega
  refine ⟨?_, fun X req₀ now₀ db₀ req now db h₀ hecho => ?_⟩
  · rw [parseHttpDate_formatHttpDate, if_pos hyear]
  have hsince : req.ifModifiedSince = formatHttpDate t := by
    have hdate := hecho.ifModifiedSince
    rw [lastModified_catalog, h₀] at hdate
    exact (Option.some.inj hdate).symm
  have hanswer : notModified req (catalogMeta now db) = true ↔
      IsScannedYear ((gmtimeR t).year + 1900) ∧ extractEpoch (genTs now db) ≤ t :=
    notModified_lastModified hecho.ifNoneMatch hsince
  constructor
  · intro hsame
    exact catalog_notModified.2 (hanswer.2 ⟨hyear, hsame.le⟩)
  · intro hlater
    exact catalog_ok fun h => not_le.2 hlater (hanswer.1 h).2

/-- An answer of August 2026, and its date an instant later. -/
theorem httpDates_roundTrip_august :
    parseHttpDate (formatHttpDate 1787443200) = some 1787443200 ∧
      EchoAnswered (.ofTables [] [] []) 1787443200
        { ifModifiedSince := "Sun, 23 Aug 2026 00:00:00 GMT" } 1787443200000001 .empty := by
  obtain ⟨hround, hecho⟩ :=
    httpDates_roundTrip (t := 1787443200) ⟨by decide +kernel, by decide +kernel⟩
  refine ⟨hround, hecho _ {} 1787443200000000 .empty _ _ _ (by decide +kernel) ⟨rfl, ?_⟩⟩
  rw [lastModified_catalog]
  decide +kernel

end VitaleBackend
