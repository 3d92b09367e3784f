/-
Rules that are ready to vote.

* `BuiltRule.ofSpec` compiles the filters of a rule; the first malformed one is the failure,
* `BuiltRule.prepare` loads the catalogs of a rule,
* `BuiltRule.voter` says how a rule votes.
-/
import VariantStrip.Catalog.File
import VariantStrip.Matcher
import VariantStrip.Reference
import VariantStrip.Rule.Basic
import VariantStrip.Rule.Builtin
import VariantStrip.Rule.Voter

namespace VariantStrip

variable [Pattern.Capacity]

/-- The keywords of virtual reality. -/
def vrKeywords : List String :=
  ["UNITY_SINGLE_PASS_STEREO", "STEREO_INSTANCING_ON", "STEREO_MULTIVIEW_ON",
    "STEREO_CUBEMAP_RENDER_ON"]

/-- The keywords of instancing. -/
def instancingKeywords : List String := ["INSTANCING_ON"]

/-- The keywords of fog. -/
def fogKeywords : List String := ["FOG_LINEAR", "FOG_EXP", "FOG_EXP2"]

/-- The keywords of light maps. -/
def lightmapKeywords : List String :=
  ["LIGHTMAP_ON", "DIRLIGHTMAP_COMBINED", "DYNAMICLIGHTMAP_ON", "LIGHTMAP_SHADOW_MIXING",
    "SHADOWS_SHADOWMASK"]

/-- The keywords of data-oriented instancing. -/
def dotsKeywords : List String := ["UNITY_DOTS_INSTANCING_ENABLED"]

/-- The keywords of the presets that are switched on. -/
def KeywordOptions.presets (o : KeywordOptions) : List String :=
  (if o.stripVr then vrKeywords else [])
    ++ (if o.stripLightmap then lightmapKeywords else [])
    ++ (if o.stripFog then fogKeywords else [])
    ++ (if o.stripInstancing then instancingKeywords else [])
    ++ (if o.stripDots then dotsKeywords else [])

/-- Where rules look for catalogs. -/
structure BuildContext where
  /-- The folder that relative paths start from. -/
  baseDir : Option Path := none
  /-- Catalogs that every catalog rule knows. -/
  extraCatalogs : List Catalog := []

/-- Where a catalog lies. -/
def BuildContext.resolve (b : BuildContext) (p : Path) : Path :=
  match b.baseDir with
  | some base => if p.isAbsolute then p else base.join p
  | none => p

/-- A rule on catalogs: where they lie, and what is known of them once they are loaded. -/
structure CatalogRule where
  sources : List Path := []
  extra : List Catalog := []
  matchWithoutLocalKeywords : Bool
  onlyStripListedShaders : Bool
  index : Option ReferenceIndex := none

/-- A rule whose filters are compiled. -/
inductive BuiltRule where
  | includeShaderName (names : List Matcher)
  | stripShaderName (names : List Matcher)
  | stripShaderPath (paths : List Matcher)
  | stripKeywords (development release : List Matcher) (presets : List String)
  | stripPlatforms (platforms : List Platform)
  | stripHardwareTier (tiers : List PlatformTiers)
  | stripPasses (passes : List (Matcher × PassType))
  | includeInternalShaders
  | stripInternalShaders
  | includeHiddenShaders
  | stripHiddenShaders
  | variantCatalog (rule : CatalogRule)

/-- The rule on catalogs with some options. -/
def CatalogRule.ofOptions (b : BuildContext) (o : CatalogOptions) : CatalogRule where
  sources := o.catalogs.map b.resolve
  extra := b.extraCatalogs
  matchWithoutLocalKeywords := o.matchWithoutLocalKeywords
  onlyStripListedShaders := o.onlyStripListedShaders

/-- The rule on catalogs with some options, over an index that is there already. -/
def CatalogRule.ofIndex (o : CatalogOptions) (x : ReferenceIndex) : CatalogRule where
  matchWithoutLocalKeywords := o.matchWithoutLocalKeywords
  onlyStripListedShaders := o.onlyStripListedShaders
  index := some x

/-- Loads catalogs in order; those that do not exist are passed over. -/
def loadCatalogs (d : Disk) : List Path → Logged (Except LoadError (List Catalog))
  | [] => pure (.ok [])
  | p :: ps =>
    match Catalog.load d p with
    | .error e => pure (.error e)
    | .ok (some c) => do return (← loadCatalogs d ps).map (c :: ·)
    | .ok none => do
      Logged.say (.catalogMissing p)
      loadCatalogs d ps

namespace CatalogRule

/-- Loads the catalogs and builds the index of their variants. -/
def prepare (r : CatalogRule) (d : Disk) (h : Host) : Logged (Except StripError CatalogRule) := do
  match ← loadCatalogs d r.sources with
  | .error e => return .error (.catalog e)
  | .ok catalogs =>
    let x ← ReferenceIndex.ofCatalogs h (catalogs ++ r.extra)
    return .ok { r with index := some x }

/-- Whether the catalogs ask to keep a variant. -/
def keeps (r : CatalogRule) (c : Context) : Except StripError Bool :=
  match r.index with
  | none => .error (.notInitialized .includeVariantCatalog)
  | some x =>
    match x.find c.shader (.ofList c.candidate.keywords) r.matchWithoutLocalKeywords with
    | .matched => .ok true
    | .notMatched => .ok false
    | .shaderAbsent => .ok r.onlyStripListedShaders

end CatalogRule

namespace BuiltRule

/-- Makes a rule ready. -/
def ofSpec (b : BuildContext) : RuleSpec → Except StripError BuiltRule
  | .includeShaderName names => return .includeShaderName (← Matcher.ofFilters names)
  | .stripShaderName names => return .stripShaderName (← Matcher.ofFilters names)
  | .stripShaderPath paths => return .stripShaderPath (← Matcher.ofFilters paths)
  | .stripKeywords o => do
    let development ← Matcher.ofFilters o.excludeDevelopment
    let release ← Matcher.ofFilters o.excludeRelease
    return .stripKeywords development release o.presets
  | .stripPlatforms platforms => return .stripPlatforms platforms
  | .stripHardwareTier tiers => return .stripHardwareTier tiers
  | .stripPasses passes => do
    return .stripPasses
      (← passes.mapM fun p => do return (← Matcher.ofFilter p.shaderName, p.passType))
  | .includeInternalShaders => return .includeInternalShaders
  | .stripInternalShaders => return .stripInternalShaders
  | .includeHiddenShaders => return .includeHiddenShaders
  | .stripHiddenShaders => return .stripHiddenShaders
  | .includeVariantCatalog o => return .variantCatalog (.ofOptions b o)

/-- Loads what the rule needs. -/
def prepare (d : Disk) (h : Host) : BuiltRule → Logged (Except StripError BuiltRule)
  | variantCatalog r => do return (← r.prepare d h).map variantCatalog
  | r => return .ok r

/-- How the rule votes. -/
def voter (description : String) : BuiltRule → Voter
  | includeShaderName names =>
    { kind := .includeShaderName, description
      votesInclude := fun c => .ok (Matcher.anyAccepts names c.shaderName) }
  | stripShaderName names =>
    { kind := .stripShaderName, description
      votesStrip := fun c => .ok (Matcher.anyAccepts names c.shaderName) }
  | stripShaderPath paths =>
    { kind := .stripShaderPath, description
      votesStrip := fun c => .ok (Matcher.anyAccepts paths (c.path?.getD "")) }
  | stripKeywords development release presets =>
    { kind := .stripKeywords, description
      votesStrip := fun c =>
        let filters := if c.development then development else release
        .ok (c.candidate.keywords.any fun k => presets.contains k || Matcher.anyAccepts filters k) }
  | stripPlatforms platforms =>
    { kind := .stripPlatforms, description
      votesStrip := fun c => .ok (platforms.contains c.candidate.platform) }
  | stripHardwareTier tiers =>
    { kind := .stripHardwareTier, description
      votesStrip := fun c =>
        .ok ((tiers.find? fun t => t.platform == c.candidate.platform).any
          (·.strips c.candidate.tier)) }
  | stripPasses passes =>
    { kind := .stripPasses, description
      votesStrip := fun c =>
        .ok (passes.any fun p => p.2 == c.snippet.passType && p.1.accepts c.shaderName) }
  | includeInternalShaders =>
    { kind := .includeInternalShaders, description
      inScope := fun c => .ok (isInternalShader c.shaderName c.path?)
      votesInclude := fun _ => .ok true }
  | stripInternalShaders =>
    { kind := .stripInternalShaders, description
      inScope := fun c => .ok (isInternalShader c.shaderName c.path?)
      votesStrip := fun _ => .ok true }
  | includeHiddenShaders =>
    { kind := .includeHiddenShaders, description
      inScope := fun c => .ok (hiddenFolder.isPrefixOf c.shaderName.toList)
      votesInclude := fun _ => .ok true }
  | stripHiddenShaders =>
    { kind := .stripHiddenShaders, description
      inScope := fun c => .ok (isHiddenShader c.shaderName)
      votesStrip := fun _ => .ok true }
  | variantCatalog r =>
    { kind := .includeVariantCatalog, description
      votesInclude := r.keeps
      votesStrip := fun c => (r.keeps c).map (!·) }

end BuiltRule

end VariantStrip
