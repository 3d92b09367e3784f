/-
What a merged catalog holds.

A merged catalog is the catalog of the listings of its sources (`Catalog.value_merge`), so its
shaders are the listed names and its variants the listed variants, each at its first place.  The
parts of `IsMergeOf` follow one by one:

* `Catalog.holds_gathered` — a gathered catalog holds what is listed, and nothing else,
* `Catalog.mem_shaders_gathered` — the entry of a shader is made of what is listed under its name,
* `Catalog.exists_of_mem_shaders_merge` — the host knows the shader of an entry, and allows the
  keywords of its variants.

The main result is `merge_isMergeOf`.
-/
import VariantStrip.Proofs.Merge

namespace VariantStrip.Catalog

/-- A catalog has a variant with a type of pass and a set of keywords under the name of a shader. -/
def Holds (c : Catalog) (name : String) (identity : PassType × StringSet) : Prop :=
  ∃ s ∈ c.shaders, s.shader = name ∧ ∃ v ∈ s.variants, v.identity = identity

/-- A catalog holds what some catalogs list of the shaders of a host, each variant once and without
the keywords that the host forbids. -/
structure IsMergeOf (h : Host) (catalogs : List Catalog) (c : Catalog) : Prop where
  /-- Nothing is lost, and nothing is made up. -/
  holds_iff : ∀ name identity, c.Holds name identity ↔
    ∃ source ∈ catalogs, ∃ entry ∈ source.shaders, entry.shader = name ∧
      ∃ id, h.find? name = some id ∧ ∃ v ∈ entry.variants, (v.cleaned h id).identity = identity
  accepted : ∀ s ∈ c.shaders, ∃ id, h.find? s.shader = some id ∧
    ∀ v ∈ s.variants, h.check id v.keywords = .ok ()
  nodup_shaders : (c.shaders.map (·.shader)).Nodup
  variants_ne_nil : ∀ s ∈ c.shaders, s.variants ≠ []
  nodup_variants : ∀ s ∈ c.shaders, (s.variants.map CatalogVariant.identity).Nodup
  /-- Shaders stand in the order of the first variants that are listed of them. -/
  shaders_in_order : (c.shaders.map (·.shader)).Pairwise
    (SeenBefore ((catalogListings h catalogs).map (·.1)))
  variants_in_order : ∀ s ∈ c.shaders, (s.variants.map CatalogVariant.identity).Pairwise
    (SeenBefore ((under s.shader (catalogListings h catalogs)).map CatalogVariant.identity))
  /-- Keywords are kept as they were first listed. -/
  as_first_listed : ∀ s ∈ c.shaders, ∀ v ∈ s.variants,
    (under s.shader (catalogListings h catalogs)).find? (fun w => w.identity = v.identity) = some v

/-! ### What is gathered -/

theorem mem_under {name : String} {ls : List Listing} {v : CatalogVariant} :
    v ∈ under name ls ↔ (name, v) ∈ ls := by
  rw [under, List.mem_map]
  constructor
  · rintro ⟨⟨name', w⟩, hl, rfl⟩
    obtain ⟨hmem, hname⟩ := List.mem_filter.mp hl
    rwa [← of_decide_eq_true hname]
  · intro hmem
    exact ⟨(name, v), List.mem_filter.mpr ⟨hmem, decide_eq_true rfl⟩, rfl⟩

theorem map_shader_gathered (ls : List Listing) :
    (gathered ls).shaders.map (·.shader) = namesOf ls := by
  rw [gathered, List.map_map]
  exact List.map_id _

theorem mem_shaders_gathered {ls : List Listing} {s : CatalogShader} :
    s ∈ (gathered ls).shaders ↔ s.shader ∈ namesOf ls ∧ s.variants = distinctUnder s.shader ls := by
  rw [gathered, List.mem_map]
  constructor
  · rintro ⟨name, hname, rfl⟩
    exact ⟨hname, rfl⟩
  · rintro ⟨hname, hvs⟩
    exact ⟨s.shader, hname, by rw [← hvs]⟩

/-- A gathered catalog holds what is listed. -/
theorem holds_gathered {ls : List Listing} {name : String} {identity : PassType × StringSet} :
    (gathered ls).Holds name identity ↔ ∃ v, (name, v) ∈ ls ∧ v.identity = identity := by
  have hkeys : identity ∈ (distinctUnder name ls).map CatalogVariant.identity ↔
      ∃ v, (name, v) ∈ ls ∧ v.identity = identity := by
    rw [distinctUnder, mem_map_firstsBy, List.mem_map]
    simp only [mem_under]
  rw [← hkeys, List.mem_map]
  constructor
  · rintro ⟨s, hs, rfl, v, hv, hidentity⟩
    rw [(mem_shaders_gathered.mp hs).2] at hv
    exact ⟨v, hv, hidentity⟩
  · rintro ⟨v, hv, hidentity⟩
    refine ⟨⟨name, distinctUnder name ls⟩, mem_shaders_gathered.mpr ⟨?_, rfl⟩, rfl, v, hv,
      hidentity⟩
    by_contra hname
    rw [distinctUnder_eq_nil hname] at hv
    cases hv

theorem mem_listings {c : Catalog} {s : CatalogShader} (hs : s ∈ c.shaders) {v : CatalogVariant}
    (hv : v ∈ s.variants) : (s.shader, v) ∈ c.listings :=
  List.mem_flatMap.mpr ⟨s, hs, List.mem_map_of_mem hv⟩

/-! ### What is merged -/

theorem mem_entryListings {h : Host} {entry : CatalogShader} {l : Listing} :
    l ∈ entryListings h entry ↔
      ∃ id, h.find? entry.shader = some id ∧
        ∃ v ∈ entry.variants, (entry.shader, v.cleaned h id) = l := by
  rw [entryListings]
  cases hid : h.find? entry.shader with
  | none => simp
  | some id => simp [List.mem_map]

theorem mem_catalogListings {h : Host} {catalogs : List Catalog} {l : Listing} :
    l ∈ catalogListings h catalogs ↔
      ∃ source ∈ catalogs, ∃ entry ∈ source.shaders, l ∈ entryListings h entry := by
  simp only [catalogListings, List.mem_flatMap]
  constructor
  · rintro ⟨entry, ⟨source, hsource, hentry⟩, hl⟩
    exact ⟨source, hsource, entry, hentry, hl⟩
  · rintro ⟨source, hsource, entry, hentry, hl⟩
    exact ⟨entry, ⟨source, hsource, hentry⟩, hl⟩

theorem holds_merge {h : Host} {catalogs : List Catalog} {name : String}
    {identity : PassType × StringSet} :
    (merge h catalogs).value.Holds name identity ↔
      ∃ source ∈ catalogs, ∃ entry ∈ source.shaders, entry.shader = name ∧
        ∃ id, h.find? name = some id ∧
          ∃ v ∈ entry.variants, (v.cleaned h id).identity = identity := by
  rw [value_merge, holds_gathered]
  simp only [mem_catalogListings, mem_entryListings]
  constructor
  · rintro ⟨_, ⟨source, hsource, entry, hentry, id, hid, v, hv, hl⟩, hidentity⟩
    cases hl
    exact ⟨source, hsource, entry, hentry, rfl, id, hid, v, hv, hidentity⟩
  · rintro ⟨source, hsource, entry, hentry, rfl, id, hid, v, hv, hidentity⟩
    exact ⟨_, ⟨source, hsource, entry, hentry, id, hid, v, hv, rfl⟩, hidentity⟩

/-- Merging again would take nothing away from an entry. -/
theorem exists_of_mem_shaders_merge {h : Host} {catalogs : List Catalog} {s : CatalogShader}
    (hs : s ∈ (merge h catalogs).value.shaders) :
    ∃ id, h.find? s.shader = some id ∧ ∀ v ∈ s.variants, h.check id v.keywords = .ok () := by
  have hsettled : ∀ v ∈ s.variants, Settled h (s.shader, v) := fun v hv =>
    settled_of_mem_listings_merge (mem_listings hs hv)
  have hne : s.variants ≠ [] := by
    rw [value_merge, mem_shaders_gathered] at hs
    rw [hs.2]
    exact distinctUnder_ne_nil hs.1
  -- An entry lists something, so its shader is known.
  obtain ⟨v, hv⟩ := List.exists_mem_of_ne_nil _ hne
  obtain ⟨id, hid, -⟩ := hsettled v hv
  obtain ⟨shader, hshader, -⟩ := Host.shader?_of_find? hid
  refine ⟨id, hid, fun w hw => ?_⟩
  obtain ⟨id', hid', hcleaned⟩ := hsettled w hw
  rw [← Option.some.inj (hid.symm.trans hid')] at hcleaned
  exact (Host.check_eq_ok_iff hshader _).mpr (CatalogVariant.cleaned_eq_self_iff.mp hcleaned)

/-- **Merging is complete, valid and free of repetitions.**  The merged catalog holds the variants
of all known shaders without their forbidden keywords, and the host accepts what it holds.  No
shader and no variant comes twice, and each stands and is written as it was first listed. -/
theorem merge_isMergeOf (h : Host) (catalogs : List Catalog) :
    IsMergeOf h catalogs (merge h catalogs).value := by
  have hentries {s : CatalogShader} (hs : s ∈ (merge h catalogs).value.shaders) :
      s.shader ∈ namesOf (catalogListings h catalogs) ∧
        s.variants = distinctUnder s.shader (catalogListings h catalogs) := by
    rwa [value_merge, mem_shaders_gathered] at hs
  have hnames : (merge h catalogs).value.shaders.map (·.shader) =
      namesOf (catalogListings h catalogs) := by
    rw [value_merge, map_shader_gathered]
  refine
    { holds_iff := fun _ _ => holds_merge
      accepted := fun _ => exists_of_mem_shaders_merge
      nodup_shaders := ?_
      variants_ne_nil := fun s hs => ?_
      nodup_variants := fun s hs => ?_
      shaders_in_order := ?_
      variants_in_order := fun s hs => ?_
      as_first_listed := fun s hs v hv => ?_ }
  · rw [hnames]
    exact nodup_namesOf _
  · rw [(hentries hs).2]
    exact distinctUnder_ne_nil (hentries hs).1
  · rw [(hentries hs).2]
    exact nodup_map_firstsBy _ _
  · rw [hnames]
    exact pairwise_eraseDups _
  · rw [(hentries hs).2]
    exact pairwise_map_firstsBy _ _
  · rw [(hentries hs).2] at hv
    exact find?_of_mem_firstsBy CatalogVariant.identity hv

/-- A variant that is listed again without its old keyword, a shader that nobody knows, and entries
that come back in another catalog. -/
def lagoonCatalogs : List Catalog :=
  [⟨[⟨"Spray", [⟨.normal, ["W"]⟩]⟩, ⟨"Gone", [⟨.normal, []⟩]⟩,
      ⟨"Lagoon", [⟨.normal, ["B", "OLD", "A", "B"]⟩]⟩]⟩,
    ⟨[⟨"Lagoon", [⟨.normal, ["A", "B"]⟩, ⟨.normal, ["OLD"]⟩]⟩, ⟨"Spray", [⟨.normal, ["OLD"]⟩]⟩]⟩]

/-- The keywords are those of the first time, repetitions and all, and what is old for one shader is
kept for the other. -/
theorem merge_isMergeOf_lagoon :
    IsMergeOf lagoonHost lagoonCatalogs
      ⟨[⟨"Spray", [⟨.normal, ["W"]⟩, ⟨.normal, ["OLD"]⟩]⟩,
        ⟨"Lagoon", [⟨.normal, ["B", "A", "B"]⟩, ⟨.normal, []⟩]⟩]⟩ := by
  have hvalue : (merge lagoonHost lagoonCatalogs).value =
      ⟨[⟨"Spray", [⟨.normal, ["W"]⟩, ⟨.normal, ["OLD"]⟩]⟩,
        ⟨"Lagoon", [⟨.normal, ["B", "A", "B"]⟩, ⟨.normal, []⟩]⟩]⟩ := by
    rw [value_merge]
    decide +kernel
  rw [← hvalue]
  exact merge_isMergeOf lagoonHost lagoonCatalogs

end VariantStrip.Catalog
