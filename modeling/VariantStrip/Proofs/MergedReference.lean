/-
What is known of merged catalogs.

Merging and indexing both drop repetitions and sort variants by shader, one by the names of shaders
and the other by their handles.  They meet in the listings of catalogs (`Listing`): an index holds
the variants of the listings (`Listing.variant`), and

* `ReferenceIndex.distinct_variants_congr` — listings that make the same catalog have the same
  variants, shader by shader and in the same order,
* `ReferenceIndex.variantsOf_merge` — so the index of the merged catalog lists what the index of
  the catalogs lists,
* `CatalogRule.BuiltOver.keeps_eq` — and what a rule answers depends on what is found there, by
  `Indexes.find_eq` on the variants that are listed.

The main result is `merge_keeps_references`.
-/
import VariantStrip.Proofs.Meaning
import VariantStrip.Proofs.Merge
import VariantStrip.Proofs.Reference

namespace VariantStrip

open Catalog

/-! ### Catalogs without forbidden keywords -/

/-- An entry without the keywords that the host forbids its shader. -/
def CatalogShader.cleaned (h : Host) (entry : CatalogShader) : CatalogShader :=
  match h.find? entry.shader with
  | none => entry
  | some id => { entry with variants := entry.variants.map (·.cleaned h id) }

/-- A catalog without the keywords that the host forbids. -/
def Catalog.cleaned (h : Host) (c : Catalog) : Catalog := ⟨c.shaders.map (·.cleaned h)⟩

/-- No entry of a known shader has a keyword that the host forbids. -/
def Catalog.IsClean (h : Host) (c : Catalog) : Prop :=
  ∀ entry ∈ c.shaders, ∀ id ∈ h.find? entry.shader, ∀ v ∈ entry.variants, ∀ k ∈ v.keywords,
    h.forbids id k = false

instance (h : Host) (c : Catalog) : Decidable (c.IsClean h) :=
  inferInstanceAs (Decidable (∀ entry ∈ c.shaders, ∀ id ∈ h.find? entry.shader,
    ∀ v ∈ entry.variants, ∀ k ∈ v.keywords, h.forbids id k = false))

theorem Catalog.IsClean.cleaned_eq_self {h : Host} {c : Catalog} (hc : c.IsClean h) :
    c.cleaned h = c := by
  have hentry : ∀ entry ∈ c.shaders, entry.cleaned h = entry := by
    intro entry hentry
    rw [CatalogShader.cleaned]
    cases hid : h.find? entry.shader with
    | none => rfl
    | some id =>
      have hvs : entry.variants.map (·.cleaned h id) = entry.variants :=
        (List.map_congr_left fun v hv =>
          CatalogVariant.cleaned_eq_self_iff.mpr (hc entry hentry id hid v hv)).trans
            (List.map_id _)
      simp only [hvs]
  rw [Catalog.cleaned, List.map_congr_left hentry, List.map_id']

/-- Merging takes the forbidden keywords away. -/
theorem Catalog.isClean_merge (h : Host) (catalogs : List Catalog) :
    (merge h catalogs).value.IsClean h := by
  intro entry hentry id hid v hv
  have hlisted : (entry.shader, v) ∈ (merge h catalogs).value.listings :=
    List.mem_flatMap.mpr ⟨entry, hentry, List.mem_map_of_mem hv⟩
  obtain ⟨id', hid', hclean⟩ := settled_of_mem_listings_merge hlisted
  rw [Option.some.inj (hid'.symm.trans hid)] at hclean
  exact CatalogVariant.cleaned_eq_self_iff.mp hclean

/-! ### The variants of listings -/

/-- The variant that is listed. -/
def Listing.variant (h : Host) (l : Listing) : Variant :=
  .ofKeywords h (h.handleOf l.1) l.2.passType l.2.keywords

theorem Listing.shader_variant {h : Host} {l : Listing} {id : ShaderId}
    (hid : h.find? l.1 = some id) : (l.variant h).shader = id := Host.handleOf_of_find? hid

namespace ReferenceIndex

theorem variantsOf_ofCatalogs (h : Host) (catalogs : List Catalog) (s : ShaderId) :
    (ofCatalogs h catalogs).value.variantsOf s =
      Variant.distinct ((catalogVariants h catalogs).filter fun v => v.shader = s) := by
  rw [variantsOf_eq, (indexes_ofCatalogs h catalogs).variants]

/-- The index of catalogs holds what they list, without forbidden keywords. -/
theorem catalogVariants_cleaned (h : Host) (catalogs : List Catalog) :
    catalogVariants h (catalogs.map (·.cleaned h)) =
      (catalogListings h catalogs).map (Listing.variant h) := by
  have hentry (entry : CatalogShader) : entryVariants h (entry.cleaned h) =
      (entryListings h entry).map (Listing.variant h) := by
    rw [CatalogShader.cleaned, entryListings]
    cases hid : h.find? entry.shader with
    | none => simp only [entryVariants, hid, List.map_nil]
    | some id =>
      simp only [entryVariants, hid, List.map_map, Listing.variant, Host.handleOf_of_find? hid,
        Function.comp_def]
  have hentries : (catalogs.map (·.cleaned h)).flatMap (·.shaders) =
      (catalogs.flatMap (·.shaders)).map (·.cleaned h) := by
    rw [List.flatMap_map, List.map_flatMap]
    rfl
  rw [catalogVariants, catalogListings, hentries, List.flatMap_map, List.map_flatMap]
  exact List.flatMap_congr fun entry _ => hentry entry

/-- What has been merged is indexed as it is. -/
theorem catalogVariants_merge (h : Host) (catalogs : List Catalog) :
    catalogVariants h [(merge h catalogs).value] =
      (merge h catalogs).value.listings.map (Listing.variant h) := by
  have hcleaned := catalogVariants_cleaned h [(merge h catalogs).value]
  rwa [List.map_singleton, (isClean_merge h catalogs).cleaned_eq_self, catalogListings_merge]
    at hcleaned

/-- The listings under a name are the variants of its handle. -/
theorem distinct_variants {h : Host} {ls : List Listing} (hls : ∀ l ∈ ls, Settled h l)
    {name : String} {s : ShaderId} (hs : h.find? name = some s) :
    Variant.distinct ((ls.map (Listing.variant h)).filter fun v => v.shader = s) =
      (distinctUnder name ls).map fun v => .ofKeywords h s v.passType v.keywords := by
  have hnamed : ∀ l ∈ ls, decide ((l.variant h).shader = s) = decide (l.1 = name) := by
    intro l hl
    obtain ⟨id, hid, -⟩ := hls l hl
    rw [Listing.shader_variant hid, decide_eq_decide]
    constructor
    · rintro rfl
      exact Host.eq_of_find? hid hs
    · rintro rfl
      exact Option.some.inj (hid.symm.trans hs)
  have hunder : (ls.map (Listing.variant h)).filter (fun v => v.shader = s) =
      (under name ls).map fun v => .ofKeywords h s v.passType v.keywords := by
    rw [List.filter_map, under, List.map_map]
    have hfilter := List.filter_congr hnamed
    simp only [Function.comp_def] at hfilter ⊢
    rw [hfilter]
    refine List.map_congr_left fun l hl => ?_
    rw [Listing.variant, of_decide_eq_true (List.mem_filter.mp hl).2, Host.handleOf_of_find? hs]
  have hkey (v w : CatalogVariant) :
      (Variant.ofKeywords h s v.passType v.keywords).identity =
        (Variant.ofKeywords h s w.passType w.keywords).identity ↔ v.identity = w.identity := by
    simp [Variant.identity, Variant.ofKeywords, CatalogVariant.identity]
  rw [hunder, Variant.distinct_eq, firstsBy_map, firstsBy_congr _ hkey]
  rfl

/-- **Listings that make the same catalog** have the same variants in the index. -/
theorem distinct_variants_congr {h : Host} {ls ls' : List Listing} (hls : ∀ l ∈ ls, Settled h l)
    (hls' : ∀ l ∈ ls', Settled h l) (halike : Alike ls ls') (s : ShaderId) :
    Variant.distinct ((ls.map (Listing.variant h)).filter fun v => v.shader = s) =
      Variant.distinct ((ls'.map (Listing.variant h)).filter fun v => v.shader = s) := by
  by_cases hs : ∃ name, h.find? name = some s
  · obtain ⟨name, hs⟩ := hs
    rw [distinct_variants hls hs, distinct_variants hls' hs, halike.variants]
  · -- No listing belongs to the shader.
    have hnone : ∀ ls : List Listing, (∀ l ∈ ls, Settled h l) →
        (ls.map (Listing.variant h)).filter (fun v => v.shader = s) = [] := by
      intro ls hls
      rw [List.filter_eq_nil_iff, List.forall_mem_map]
      intro l hl hshader
      obtain ⟨id, hid, -⟩ := hls l hl
      rw [Listing.shader_variant hid, decide_eq_true_eq] at hshader
      exact hs ⟨l.1, hshader ▸ hid⟩
    rw [hnone ls hls, hnone ls' hls']

/-- **The same variants, in the same order.** -/
theorem variantsOf_merge (h : Host) (catalogs : List Catalog) (s : ShaderId) :
    (ofCatalogs h [(merge h catalogs).value]).value.variantsOf s =
      (ofCatalogs h (catalogs.map (·.cleaned h))).value.variantsOf s := by
  rw [variantsOf_ofCatalogs, variantsOf_ofCatalogs, catalogVariants_merge, catalogVariants_cleaned]
  exact distinct_variants_congr (fun _ => settled_of_mem_listings_merge)
    (fun _ => settled_of_mem_catalogListings) (alike_listings_merge h catalogs) s

end ReferenceIndex

/-! ### Votes -/

/-- The rule has been made ready with some catalogs: it was given their index, or it is what a
configured rule becomes where it knows just these catalogs. -/
inductive CatalogRule.BuiltOver (h : Host) (catalogs : List Catalog) : CatalogRule → Prop
  | given (o : CatalogOptions) :
    BuiltOver h catalogs (.ofIndex o (ReferenceIndex.ofCatalogs h catalogs).value)
  | prepared (o : CatalogOptions) (w : Surroundings) (r : CatalogRule) (hhost : w.host = h)
    (hknown : o.known w = catalogs)
    (hr : ((CatalogRule.ofOptions w.build o).prepare w.disk w.host).value = .ok r) :
    BuiltOver h catalogs r

namespace CatalogRule

theorem BuiltOver.index_eq {h : Host} {catalogs : List Catalog} {r : CatalogRule}
    (hr : r.BuiltOver h catalogs) :
    r.index = some (ReferenceIndex.ofCatalogs h catalogs).value := by
  cases hr with
  | given o => rfl
  | prepared o w r hhost hknown hr =>
    subst hhost hknown
    rw [prepare_ofOptions_ok hr]

/-- Whether a rule keeps a variant that compares with the known ones in some way. -/
def answer (r : CatalogRule) : ReferenceMatch → Bool
  | .matched => true
  | .notMatched => false
  | .shaderAbsent => r.onlyStripListedShaders

/-- A rule that has been made ready answers every question. -/
theorem BuiltOver.keeps_eq {h : Host} {catalogs : List Catalog} {r : CatalogRule}
    (hr : r.BuiltOver h catalogs) (c : Context) :
    r.keeps c = .ok (r.answer ((ReferenceIndex.ofCatalogs h catalogs).value.find c.shader
      (.ofList c.candidate.keywords) r.matchWithoutLocalKeywords)) := by
  rw [keeps, hr.index_eq]
  dsimp only
  generalize (ReferenceIndex.ofCatalogs h catalogs).value.find c.shader
    (.ofList c.candidate.keywords) r.matchWithoutLocalKeywords = found
  cases found <;> rfl

end CatalogRule

/-- **Merging does not change what a catalog rule does.**  The index of the merged catalog lists the
same variants of every shader, in the same order, as the index of the catalogs without the keywords
that the host forbids.  So if there are no such keywords, two catalog rules that are configured
alike, one over the catalogs and one over the merged catalog, give the same votes. -/
theorem merge_keeps_references (h : Host) (catalogs : List Catalog) :
    (∀ s, (ReferenceIndex.ofCatalogs h [(merge h catalogs).value]).value.variantsOf s =
      (ReferenceIndex.ofCatalogs h (catalogs.map (·.cleaned h))).value.variantsOf s) ∧
    ((∀ c ∈ catalogs, c.IsClean h) → ∀ r r' : CatalogRule, r.BuiltOver h catalogs →
      r'.BuiltOver h [(merge h catalogs).value] →
      r.matchWithoutLocalKeywords = r'.matchWithoutLocalKeywords →
      r.onlyStripListedShaders = r'.onlyStripListedShaders →
      ∀ (description description' : String) (c : Context), ∃ b,
        ((BuiltRule.variantCatalog r).voter description).votesInclude c = .ok b ∧
        ((BuiltRule.variantCatalog r').voter description').votesInclude c = .ok b ∧
        ((BuiltRule.variantCatalog r).voter description).votesStrip c = .ok !b ∧
        ((BuiltRule.variantCatalog r').voter description').votesStrip c = .ok !b) := by
  refine ⟨ReferenceIndex.variantsOf_merge h catalogs,
    fun hclean r r' hr hr' hlocal hlisted description description' c => ?_⟩
  have hcleaned : catalogs.map (·.cleaned h) = catalogs :=
    (List.map_congr_left fun c hc => (hclean c hc).cleaned_eq_self).trans (List.map_id _)
  have hlists := ReferenceIndex.variantsOf_merge h catalogs c.shader
  rw [hcleaned] at hlists
  have hfind := (ReferenceIndex.indexes_ofCatalogs h [(merge h catalogs).value]).find_eq c.shader
    (.ofList c.candidate.keywords) r'.matchWithoutLocalKeywords
  rw [hlists, ← hlocal, ← (ReferenceIndex.indexes_ofCatalogs h catalogs).find_eq] at hfind
  have hanswer : r'.answer = r.answer := by
    funext found
    cases found with
    | matched | notMatched => rfl
    | shaderAbsent => exact hlisted.symm
  have hkeeps := hr.keeps_eq c
  have hkeeps' := hr'.keeps_eq c
  rw [← hlocal, hanswer, hfind, ← hkeeps] at hkeeps'
  refine ⟨_, hkeeps, hkeeps'.trans hkeeps, ?_, ?_⟩
  · simp only [BuiltRule.voter, hkeeps]
    rfl
  · simp only [BuiltRule.voter, hkeeps', hkeeps]
    rfl

/-- Two catalogs that list the variants of a shader in turns, one of them twice.  What one shader
must not be compiled with is allowed for another, and for one that is not known. -/
def lagoonReferences : List Catalog := [
  ⟨[⟨"Spray", [⟨.normal, ["OLD"]⟩]⟩, ⟨"Lagoon", [⟨.normal, ["A", "B"]⟩]⟩]⟩,
  ⟨[⟨"Gone", [⟨.normal, ["OLD"]⟩]⟩, ⟨"Lagoon", [⟨.deferred, ["C"]⟩, ⟨.normal, ["B", "A"]⟩]⟩]⟩]

/-- A variant of the shader, in a pass that no catalog lists. -/
def lagoonContext : Context where
  host := lagoonHost
  shader := ⟨0⟩
  shaderName := "Lagoon"
  snippet := ⟨.shadowCaster, "Pass"⟩
  candidate := ⟨["B", "A"], .d3d, .tier1⟩
  development := false

theorem merge_keeps_references_lagoon :
    (∀ c ∈ lagoonReferences, c.IsClean lagoonHost) ∧
      ((BuiltRule.variantCatalog (.ofIndex {} (ReferenceIndex.ofCatalogs lagoonHost
        [(merge lagoonHost lagoonReferences).value]).value)).voter "").votesStrip lagoonContext =
        .ok false := by
  have hclean : ∀ c ∈ lagoonReferences, c.IsClean lagoonHost := by decide +kernel
  obtain ⟨b, hinclude, -, -, hstrip⟩ :=
    (merge_keeps_references lagoonHost lagoonReferences).2 hclean _ _ (.given {}) (.given {})
      rfl rfl "" "" lagoonContext
  have hkept : ((BuiltRule.variantCatalog (.ofIndex {} (ReferenceIndex.ofCatalogs lagoonHost
      lagoonReferences).value)).voter "").votesInclude lagoonContext = .ok true := by
    decide +kernel
  refine ⟨hclean, hstrip.trans ?_⟩
  rw [← Except.ok.inj (hkept.symm.trans hinclude)]
  rfl

end VariantStrip
