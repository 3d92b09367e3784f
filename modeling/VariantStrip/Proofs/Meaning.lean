/-
What a settings file means.

`RuleSpec.Strips` says of a configured rule which candidates it strips, in terms of its own
parameters, of the host and of the catalogs that can be found; compiled filters, the index of
catalogs and the loop over rules do not occur in it.  `StripperConfig.Spares` puts the rules of the
settings together: a candidate is spared if its shader bypasses the rules, or no enabled rule
strips it.

* `voter_strips_iff` — a rule that is ready strips what its configuration says,
* `survivors_eq_spared` — after a success of `prepare`, processing a pass leaves exactly the
  candidates that are spared, in order.
-/
import VariantStrip.Pattern.Estimate
import VariantStrip.Proofs.Prepare
import VariantStrip.Proofs.Reference

namespace VariantStrip

/-- Where a build takes place: its host, its kind, and where its catalogs come from. -/
structure Surroundings where
  host : Host
  disk : Disk
  build : BuildContext
  development : Bool

/-! ### What a rule strips -/

/-- The filter is well formed and accepts the text. -/
def StringFilter.Matches [Pattern.Capacity] (f : StringFilter) (text : String) : Prop :=
  f.accepts (some text) = .ok true

instance [Pattern.Capacity] (f : StringFilter) (text : String) : Decidable (f.Matches text) :=
  inferInstanceAs (Decidable (_ = _))

/-- The filters for the kind of build that is made. -/
def KeywordOptions.excluded (o : KeywordOptions) (development : Bool) : List StringFilter :=
  if development then o.excludeDevelopment else o.excludeRelease

/-- The keyword belongs to a preset that is switched on. -/
def KeywordOptions.InPreset (o : KeywordOptions) (k : String) : Prop :=
  o.stripVr = true ∧ k ∈ vrKeywords ∨ o.stripLightmap = true ∧ k ∈ lightmapKeywords ∨
    o.stripFog = true ∧ k ∈ fogKeywords ∨ o.stripInstancing = true ∧ k ∈ instancingKeywords ∨
    o.stripDots = true ∧ k ∈ dotsKeywords

instance (o : KeywordOptions) (k : String) : Decidable (o.InPreset k) :=
  inferInstanceAs (Decidable (_ ∨ _))

/-- A name starts with a text, whatever the case of their ASCII letters. -/
def StartsWith (start name : String) : Prop :=
  start.toList.map Char.toLower <+: name.toList.map Char.toLower

instance (start name : String) : Decidable (StartsWith start name) :=
  inferInstanceAs (Decidable (_ <+: _))

/-- The path of a shader is missing or blank. -/
def NoPath (path : Option String) : Prop := ∀ c ∈ (path.getD "").toList, Text.isBlank c = true

instance (path : Option String) : Decidable (NoPath path) :=
  inferInstanceAs (Decidable (∀ c ∈ (path.getD "").toList, Text.isBlank c = true))

/-- Two lists have the same members. -/
def SameMembers (xs ys : List String) : Prop := xs ⊆ ys ∧ ys ⊆ xs

instance (xs ys : List String) : Decidable (SameMembers xs ys) :=
  inferInstanceAs (Decidable (_ ∧ _))

/-- The catalogs that a rule knows: those of its files that exist, then those of the build. -/
def CatalogOptions.known (o : CatalogOptions) (w : Surroundings) : List Catalog :=
  (o.catalogs.filterMap fun p => (Catalog.load w.disk (w.build.resolve p)).toOption.join) ++
    w.build.extraCatalogs

/-- The variants that the catalogs of a rule list for a shader of the host. -/
def CatalogOptions.listed (o : CatalogOptions) (w : Surroundings) (shader : ShaderId) :
    List CatalogVariant :=
  (((o.known w).flatMap (·.shaders)).filter fun entry =>
    w.host.find? entry.shader = some shader).flatMap (·.variants)

/-- A listed variant has the keywords of a candidate, or has them up to the local keywords of the
shader if that is enough. -/
def CatalogOptions.Lists (o : CatalogOptions) (w : Surroundings) (shader : ShaderId)
    (x : Candidate) : Prop :=
  ∃ v ∈ o.listed w shader, SameMembers v.keywords x.keywords ∨
    o.matchWithoutLocalKeywords = true ∧
      SameMembers (v.keywords.filter fun k => !w.host.isLocal shader k) x.keywords

instance (o : CatalogOptions) (w : Surroundings) (shader : ShaderId) (x : Candidate) :
    Decidable (o.Lists w shader x) :=
  inferInstanceAs (Decidable (∃ v ∈ o.listed w shader, _))

/-- **What a rule strips.** -/
def RuleSpec.Strips [Pattern.Capacity] (w : Surroundings) (shader : ShaderId) (snippet : Snippet)
    (x : Candidate) :
    RuleSpec → Prop
  | .stripShaderName names => ∃ f ∈ names, f.Matches (w.host.nameOf shader)
  | .stripShaderPath paths => ∃ f ∈ paths, f.Matches ((w.host.pathOf? shader).getD "")
  | .stripKeywords o =>
    ∃ k ∈ x.keywords, o.InPreset k ∨ ∃ f ∈ o.excluded w.development, f.Matches k
  | .stripPlatforms platforms => x.platform ∈ platforms
  | .stripHardwareTier tiers =>
    ∃ t ∈ tiers.find? fun t => t.platform = x.platform, t.strips x.tier = true
  | .stripPasses passes =>
    ∃ p ∈ passes, p.passType = snippet.passType ∧ p.shaderName.Matches (w.host.nameOf shader)
  | .stripInternalShaders =>
    NoPath (w.host.pathOf? shader) ∨ StartsWith "Hidden/Internal" (w.host.nameOf shader)
  | .stripHiddenShaders =>
    StartsWith "Hidden/" (w.host.nameOf shader) ∧
      ¬ StartsWith "Hidden/Internal" (w.host.nameOf shader)
  | .includeVariantCatalog o =>
    ¬ o.Lists w shader x ∧ (o.onlyStripListedShaders = true → o.listed w shader ≠ [])
  | .includeShaderName _ | .includeInternalShaders | .includeHiddenShaders => False

instance [Pattern.Capacity] (w : Surroundings) (shader : ShaderId) (snippet : Snippet)
    (x : Candidate) (spec : RuleSpec) : Decidable (spec.Strips w shader snippet x) :=
  match spec with
  | .stripShaderName names =>
    inferInstanceAs (Decidable (∃ f ∈ names, f.Matches (w.host.nameOf shader)))
  | .stripShaderPath paths =>
    inferInstanceAs (Decidable (∃ f ∈ paths, f.Matches ((w.host.pathOf? shader).getD "")))
  | .stripKeywords o =>
    inferInstanceAs (Decidable (∃ k ∈ x.keywords,
      o.InPreset k ∨ ∃ f ∈ o.excluded w.development, f.Matches k))
  | .stripPlatforms platforms => inferInstanceAs (Decidable (x.platform ∈ platforms))
  | .stripHardwareTier tiers =>
    inferInstanceAs (Decidable (∃ t ∈ tiers.find? fun t => t.platform = x.platform,
      t.strips x.tier = true))
  | .stripPasses passes =>
    inferInstanceAs (Decidable (∃ p ∈ passes,
      p.passType = snippet.passType ∧ p.shaderName.Matches (w.host.nameOf shader)))
  | .stripInternalShaders => inferInstanceAs (Decidable (_ ∨ _))
  | .stripHiddenShaders => inferInstanceAs (Decidable (_ ∧ ¬ _))
  | .includeVariantCatalog o =>
    inferInstanceAs (Decidable (¬ o.Lists w shader x ∧ (_ → o.listed w shader ≠ [])))
  | .includeShaderName _ | .includeInternalShaders | .includeHiddenShaders =>
    inferInstanceAs (Decidable False)

/-- **A candidate is spared** if its shader bypasses the rules, or no enabled rule strips it. -/
def StripperConfig.Spares [Pattern.Capacity] (c : StripperConfig) (d : Disk) (h : Host)
    (shader : ShaderId) (snippet : Snippet) (x : Candidate) : Prop :=
  c.settings.processAlwaysIncluded = false ∧ h.isAlwaysIncluded shader = true ∨
    ∀ r ∈ c.settings.enabledRules, ¬ r.spec.Strips ⟨h, d, c.build, c.development⟩ shader snippet x

instance [Pattern.Capacity] (c : StripperConfig) (d : Disk) (h : Host) (shader : ShaderId)
    (snippet : Snippet) (x : Candidate) : Decidable (c.Spares d h shader snippet x) :=
  inferInstanceAs (Decidable (_ ∨ ∀ r ∈ c.settings.enabledRules, ¬ _))

/-! ### Filters, names and presets -/

/-- Compiled filters accept what one of the filters matches. -/
theorem anyAccepts_iff [Pattern.Capacity] {fs : List StringFilter} {ms : List Matcher}
    (h : Matcher.ofFilters fs = .ok ms) (text : String) :
    Matcher.anyAccepts ms text = true ↔ ∃ f ∈ fs, f.Matches text := by
  have hms := mapM_eq_ok_iff.mp h
  clear h
  induction hms with
  | nil => simp [Matcher.anyAccepts]
  | @cons f m fs ms hm _ ih =>
    have hf : f.Matches text ↔ m.accepts text = true := by
      simp [StringFilter.Matches, StringFilter.accepts, hm, Except.map]
    rw [Matcher.anyAccepts] at ih ⊢
    simp [List.any_cons, ih, hf]

/-- Compiled entries of passes accept what one of the entries matches. -/
theorem any_passes_iff [Pattern.Capacity] {ps : List PassEntry} {ms : List (Matcher × PassType)}
    (h : (ps.mapM fun p => do return (← Matcher.ofFilter p.shaderName, p.passType)) = .ok ms)
    (passType : PassType) (name : String) :
    (ms.any fun m => m.2 == passType && m.1.accepts name) = true ↔
      ∃ p ∈ ps, p.passType = passType ∧ p.shaderName.Matches name := by
  have hms := mapM_eq_ok_iff.mp h
  clear h
  induction hms with
  | nil => simp
  | @cons p m ps ms hm _ ih =>
    obtain ⟨matcher, hmatcher, h⟩ := bind_eq_ok_iff.mp hm
    cases h
    have hp : p.shaderName.Matches name ↔ matcher.accepts name = true := by
      simp [StringFilter.Matches, StringFilter.accepts, hmatcher, Except.map]
    simp [List.any_cons, ih, hp]

theorem startsWithAnyCase_iff {start name : String} :
    startsWithAnyCase start.toList name.toList = true ↔ StartsWith start name := by
  rw [startsWithAnyCase, List.isPrefixOf_iff_prefix, StartsWith]

theorem hiddenFolder_eq : hiddenFolder = "Hidden/".toList := rfl

theorem internalFolder_eq : internalFolder = "Hidden/Internal".toList := rfl

theorem isInternalShader_iff {name : String} {path : Option String} :
    isInternalShader name path = true ↔ NoPath path ∨ StartsWith "Hidden/Internal" name := by
  rw [isInternalShader, Bool.or_eq_true, internalFolder_eq, startsWithAnyCase_iff]
  refine or_congr_left ?_
  cases path with
  | none => simp [NoPath]
  | some p => simp [NoPath, List.all_eq_true]

theorem isHiddenShader_iff {name : String} :
    isHiddenShader name = true ↔
      StartsWith "Hidden/" name ∧ ¬ StartsWith "Hidden/Internal" name := by
  rw [isHiddenShader, Bool.and_eq_true, hiddenFolder_eq, internalFolder_eq,
    startsWithAnyCase_iff, Bool.not_eq_true', ← Bool.not_eq_true, startsWithAnyCase_iff]

theorem mem_presets {o : KeywordOptions} {k : String} : k ∈ o.presets ↔ o.InPreset k := by
  have hif (b : Bool) (ks : List String) : k ∈ (if b then ks else []) ↔ b = true ∧ k ∈ ks := by
    cases b <;> simp
  simp only [KeywordOptions.presets, KeywordOptions.InPreset, List.mem_append, hif, or_assoc]

/-! ### Catalogs -/

theorem ofList_eq_ofList_iff_sameMembers {xs ys : List String} :
    StringSet.ofList xs = StringSet.ofList ys ↔ SameMembers xs ys := by
  rw [StringSet.ofList_eq_ofList, SameMembers]
  exact ⟨fun h => ⟨fun k => (h k).mp, fun k => (h k).mpr⟩, fun h k => ⟨@h.1 k, @h.2 k⟩⟩

theorem keywords_ofKeywords (h : Host) (shader : ShaderId) (passType : PassType)
    (keywords : List String) :
    (Variant.ofKeywords h shader passType keywords).keywords = .ofList keywords := rfl

theorem globalKeywords_ofKeywords (h : Host) (shader : ShaderId) (passType : PassType)
    (keywords : List String) :
    (Variant.ofKeywords h shader passType keywords).globalKeywords =
      .ofList (keywords.filter fun k => !h.isLocal shader k) := by
  refine StringSet.ext_of_mem fun k => ?_
  simp [Variant.ofKeywords]

/-- What the catalogs of a rule list, as the index holds it. -/
theorem mem_listed {o : CatalogOptions} {w : Surroundings} {shader : ShaderId}
    {v : CatalogVariant} :
    v ∈ o.listed w shader ↔
      ∃ c ∈ o.known w, ∃ entry ∈ c.shaders, w.host.find? entry.shader = some shader ∧
        v ∈ entry.variants := by
  simp only [CatalogOptions.listed, List.mem_flatMap, List.mem_filter, decide_eq_true_eq]
  constructor
  · rintro ⟨entry, ⟨⟨c, hc, hentry⟩, hshader⟩, hv⟩
    exact ⟨c, hc, entry, hentry, hshader, hv⟩
  · rintro ⟨c, hc, entry, hentry, hshader, hv⟩
    exact ⟨entry, ⟨⟨c, hc, hentry⟩, hshader⟩, hv⟩

theorem exists_catalogVariants_iff (o : CatalogOptions) (w : Surroundings) (shader : ShaderId)
    (p : Variant → Prop) :
    (∃ v ∈ ReferenceIndex.catalogVariants w.host (o.known w), v.shader = shader ∧ p v) ↔
      ∃ v ∈ o.listed w shader, p (.ofKeywords w.host shader v.passType v.keywords) := by
  constructor
  · rintro ⟨v, hv, rfl, hp⟩
    obtain ⟨c, hc, entry, hentry, shader, hshader, u, hu, rfl⟩ :=
      ReferenceIndex.mem_catalogVariants.mp hv
    exact ⟨u, mem_listed.mpr ⟨c, hc, entry, hentry, hshader, hu⟩, hp⟩
  · rintro ⟨u, hu, hp⟩
    obtain ⟨c, hc, entry, hentry, hshader, hu⟩ := mem_listed.mp hu
    exact ⟨_, ReferenceIndex.mem_catalogVariants.mpr
      ⟨c, hc, entry, hentry, shader, hshader, u, hu, rfl⟩, rfl, hp⟩

/-- Loading the catalogs of a rule finds those that the rule knows. -/
theorem prepare_ofOptions_ok {o : CatalogOptions} {w : Surroundings} {rule : CatalogRule}
    (h : ((CatalogRule.ofOptions w.build o).prepare w.disk w.host).value = .ok rule) :
    rule = { CatalogRule.ofOptions w.build o with
      index := some (ReferenceIndex.ofCatalogs w.host (o.known w)).value } := by
  rw [CatalogRule.prepare] at h
  simp only [Logged.value_bind] at h
  cases hloaded : (loadCatalogs w.disk (CatalogRule.ofOptions w.build o).sources).value with
  | error e =>
    rw [hloaded] at h
    cases h
  | ok catalogs =>
    have hcatalogs := loadCatalogs_ok hloaded
    rw [hloaded] at h
    cases h
    rw [hcatalogs]
    simp only [CatalogRule.ofOptions, List.filterMap_map, CatalogOptions.known]
    rfl

theorem find_known_eq_matched_iff (o : CatalogOptions) (w : Surroundings) (shader : ShaderId)
    (x : Candidate) :
    (ReferenceIndex.ofCatalogs w.host (o.known w)).value.find shader (.ofList x.keywords)
        o.matchWithoutLocalKeywords = .matched ↔ o.Lists w shader x := by
  rw [(ReferenceIndex.indexes_ofCatalogs w.host (o.known w)).find_eq_matched_iff
    (fun _ => ReferenceIndex.ofHost_of_mem_catalogVariants), exists_catalogVariants_iff,
    CatalogOptions.Lists]
  simp only [keywords_ofKeywords, globalKeywords_ofKeywords, ofList_eq_ofList_iff_sameMembers]

theorem find_known_eq_absent_iff (o : CatalogOptions) (w : Surroundings) (shader : ShaderId)
    (ks : StringSet) (withoutLocal : Bool) :
    (ReferenceIndex.ofCatalogs w.host (o.known w)).value.find shader ks withoutLocal =
      .shaderAbsent ↔ o.listed w shader = [] := by
  have hsome := exists_catalogVariants_iff o w shader fun _ => True
  rw [(ReferenceIndex.indexes_ofCatalogs w.host (o.known w)).find_eq_absent_iff,
    List.eq_nil_iff_forall_not_mem]
  refine ⟨fun h v hv => ?_, fun h v hv hs => ?_⟩
  · obtain ⟨u, hu, hs, -⟩ := hsome.mpr ⟨v, hv, trivial⟩
    exact h u hu hs
  · obtain ⟨u, hu, -⟩ := hsome.mp ⟨v, hv, hs, trivial⟩
    exact h u hu

/-- A catalog rule that is ready strips what its catalogs do not list, but if asked to it leaves
alone the shaders of which they list nothing. -/
theorem keeps_eq_false_iff {o : CatalogOptions} {w : Surroundings} {rule : CatalogRule}
    (h : ((CatalogRule.ofOptions w.build o).prepare w.disk w.host).value = .ok rule)
    (c : Context) :
    rule.keeps c = .ok false ↔ ¬ o.Lists w c.shader c.candidate ∧
      (o.onlyStripListedShaders = true → o.listed w c.shader ≠ []) := by
  have hmatched := find_known_eq_matched_iff o w c.shader c.candidate
  have habsent := find_known_eq_absent_iff o w c.shader (.ofList c.candidate.keywords)
    o.matchWithoutLocalKeywords
  rw [prepare_ofOptions_ok h, CatalogRule.keeps]
  simp only [CatalogRule.ofOptions]
  rw [← hmatched, ne_eq, ← habsent]
  cases (ReferenceIndex.ofCatalogs w.host (o.known w)).value.find c.shader
    (.ofList c.candidate.keywords) o.matchWithoutLocalKeywords with
  | matched => simp
  | notMatched => simp
  | shaderAbsent => cases o.onlyStripListedShaders <;> simp

/-! ### Rules that are ready -/

/-- What a rule is asked about in a build. -/
def Surroundings.context (w : Surroundings) (shader : ShaderId) (snippet : Snippet)
    (x : Candidate) : Context where
  host := w.host
  shader
  shaderName := w.host.nameOf shader
  snippet
  candidate := x
  development := w.development

/-- The vote of a rule that is in scope of every shader. -/
theorem strips_voter_iff {rule : BuiltRule} {description : String}
    (hscope : (rule.voter description).kind.traits.scopeGate = false)
    (hvote : (rule.voter description).kind.traits.stripVote = true) (c : Context) :
    (rule.voter description).Strips c ↔ (rule.voter description).votesStrip c = .ok true := by
  simp [Voter.Strips, Voter.InScope, hscope, hvote]

/-- **A rule that is ready strips what its configuration says.** -/
theorem voter_strips_iff [Pattern.Capacity] {w : Surroundings} {r : Rule} {q : DescribedRule}
    (h : Stripper.Readied w.build w.disk w.host r q) (shader : ShaderId) (snippet : Snippet)
    (x : Candidate) :
    q.voter.Strips (w.context shader snippet x) ↔ r.spec.Strips w shader snippet x := by
  obtain ⟨-, rule, hrule, hready⟩ := h
  obtain ⟨description, ready⟩ := q
  rw [DescribedRule.voter]
  -- One case for each kind of rule: what was built of it, then what it is asked.
  cases hspec : r.spec with
  | includeShaderName names =>
    rw [hspec] at hrule
    obtain ⟨ms, hms, h⟩ := bind_eq_ok_iff.mp hrule
    cases h
    cases hready
    simp [BuiltRule.voter, Voter.Strips, RuleKind.traits, RuleSpec.Strips]
  | stripShaderName names =>
    rw [hspec] at hrule
    obtain ⟨ms, hms, h⟩ := bind_eq_ok_iff.mp hrule
    cases h
    cases hready
    rw [strips_voter_iff rfl rfl, RuleSpec.Strips, ← anyAccepts_iff hms]
    simp [BuiltRule.voter, Surroundings.context]
  | stripShaderPath paths =>
    rw [hspec] at hrule
    obtain ⟨ms, hms, h⟩ := bind_eq_ok_iff.mp hrule
    cases h
    cases hready
    rw [strips_voter_iff rfl rfl, RuleSpec.Strips, ← anyAccepts_iff hms]
    simp [BuiltRule.voter, Surroundings.context, Context.path?]
  | stripKeywords o =>
    rw [hspec] at hrule
    obtain ⟨development, hdevelopment, hrest⟩ := bind_eq_ok_iff.mp hrule
    obtain ⟨release, hrelease, h⟩ := bind_eq_ok_iff.mp hrest
    cases h
    cases hready
    have hexcluded (k : String) :
        Matcher.anyAccepts (if w.development then development else release) k = true ↔
          ∃ f ∈ o.excluded w.development, f.Matches k := by
      cases hkind : w.development with
      | true => exact anyAccepts_iff hdevelopment k
      | false => exact anyAccepts_iff hrelease k
    rw [strips_voter_iff rfl rfl, RuleSpec.Strips]
    simp [BuiltRule.voter, Surroundings.context, ← hexcluded, ← mem_presets]
  | stripPlatforms platforms =>
    rw [hspec] at hrule
    cases hrule
    cases hready
    rw [strips_voter_iff rfl rfl, RuleSpec.Strips]
    simp [BuiltRule.voter, Surroundings.context]
  | stripHardwareTier tiers =>
    rw [hspec] at hrule
    cases hrule
    cases hready
    have hfirst : (fun t : PlatformTiers => t.platform == x.platform) =
        fun t => decide (t.platform = x.platform) := rfl
    rw [strips_voter_iff rfl rfl, RuleSpec.Strips]
    simp [BuiltRule.voter, Surroundings.context, hfirst, Option.any_eq_true]
  | stripPasses passes =>
    rw [hspec] at hrule
    obtain ⟨ms, hms, h⟩ := bind_eq_ok_iff.mp hrule
    cases h
    cases hready
    rw [strips_voter_iff rfl rfl, RuleSpec.Strips, ← any_passes_iff hms]
    simp [BuiltRule.voter, Surroundings.context]
  | includeInternalShaders =>
    rw [hspec] at hrule
    cases hrule
    cases hready
    simp [BuiltRule.voter, Voter.Strips, RuleKind.traits, RuleSpec.Strips]
  | stripInternalShaders =>
    rw [hspec] at hrule
    cases hrule
    cases hready
    rw [RuleSpec.Strips, ← isInternalShader_iff]
    simp [BuiltRule.voter, Voter.Strips, Voter.InScope, RuleKind.traits, Surroundings.context,
      Context.path?]
  | includeHiddenShaders =>
    rw [hspec] at hrule
    cases hrule
    cases hready
    simp [BuiltRule.voter, Voter.Strips, RuleKind.traits, RuleSpec.Strips]
  | stripHiddenShaders =>
    rw [hspec] at hrule
    cases hrule
    cases hready
    rw [RuleSpec.Strips, ← isHiddenShader_iff]
    simp [BuiltRule.voter, Voter.Strips, Voter.InScope, RuleKind.traits, Surroundings.context]
  | includeVariantCatalog o =>
    rw [hspec] at hrule
    cases hrule
    obtain ⟨loaded, hloaded, rfl⟩ := map_eq_ok_iff.mp hready
    rw [strips_voter_iff rfl rfl, RuleSpec.Strips]
    refine Iff.trans ?_ (keeps_eq_false_iff hloaded (w.context shader snippet x))
    simp only [BuiltRule.voter, map_eq_ok_iff]
    simp

theorem keeps_iff_spares [Pattern.Capacity] {c : StripperConfig} {d : Disk} {h : Host}
    {ready : List DescribedRule}
    (hready : List.Forall₂ (Stripper.Readied c.build d h) c.settings.enabledRules ready)
    (shader : ShaderId) (snippet : Snippet) (x : Candidate) :
    (Engine.ofRules ready c.settings c.development).keeps h shader snippet x = true ↔
      c.Spares d h shader snippet x := by
  have hrules := forall_mem_iff_of_forall₂ hready fun r q hq =>
    not_congr (voter_strips_iff (w := ⟨h, d, c.build, c.development⟩) hq shader snippet x).symm
  rw [Engine.keeps_iff, StripperConfig.Spares, hrules]
  refine or_congr ?_ ?_
  · simp [Engine.bypasses, Engine.ofRules]
  · simp only [Engine.ofRules, List.forall_mem_map]
    rfl

/-- **The meaning of a settings file.**  After a success of `prepare`, and whatever has been
counted since, processing a pass leaves the candidates that are spared, in order. -/
theorem survivors_eq_spared [Pattern.Capacity] (s : Stripper) (d : Disk) (h : Host)
    (assetBundles : Bool) (hok : (s.prepare d h assetBundles).value.1 = .ok ()) (t : Tally)
    (shader : ShaderId) (snippet : Snippet) (xs : List Candidate) :
    ({ (s.prepare d h assetBundles).value.2 with tally := t }.process h shader snippet
        xs).value.1 =
      xs.filter fun x => s.config.Spares d h shader snippet x := by
  obtain ⟨ready, hready, hprepared⟩ := Stripper.prepare_ok hok
  rw [hprepared]
  refine (Stripper.value_process_engineOf { config := s.config, kind := .ofFlag assetBundles } ready
    t h shader snippet xs).trans ?_
  refine List.filter_congr fun x _ => ?_
  rw [Bool.eq_iff_iff, keeps_iff_spares hready, decide_eq_true_eq]

/-- A host with one shader. -/
def waterHost : Host := .ofList [{ name := "Water", path := some "Assets/Water.shader" }]

/-- A stripper with two entries for one platform, with a rule that is switched off, and with a
catalog that lists two variants of the shader. -/
def waterStripper : Stripper where
  config := {
    settings := { rules := [
      { spec := .stripKeywords { stripFog := true } },
      { spec := .stripHardwareTier
          [{ platform := .d3d, stripTier3 := true }, { platform := .d3d, stripTier1 := true }] },
      { enabled := false, spec := .stripPlatforms [.d3d] },
      { spec := .includeVariantCatalog { onlyStripListedShaders := true } }] }
    build := { extraCatalogs :=
      [⟨[⟨"Water", [⟨.normal, ["A", "B"]⟩, ⟨.normal, ["FOG_EXP"]⟩]⟩]⟩] } }

theorem survivors_eq_spared_water :
    (waterStripper.prepare {} waterHost false).value.1 = .ok () ∧
      ({ (waterStripper.prepare {} waterHost false).value.2 with tally := {} }.process waterHost ⟨0⟩
        ⟨.shadowCaster, "Pass"⟩
        [⟨["B", "A", "B"], .d3d, .tier1⟩, ⟨["FOG_EXP"], .d3d, .tier1⟩, ⟨["A"], .d3d, .tier1⟩,
          ⟨["A", "B"], .d3d, .tier3⟩, ⟨["A", "B"], .vulkan, .tier3⟩]).value.1 =
        [⟨["B", "A", "B"], .d3d, .tier1⟩, ⟨["A", "B"], .vulkan, .tier3⟩] := by
  have hok : (waterStripper.prepare {} waterHost false).value.1 = .ok () := by decide +kernel
  refine ⟨hok, (survivors_eq_spared waterStripper {} waterHost false hok {} ⟨0⟩ _ _).trans ?_⟩
  decide +kernel

end VariantStrip
