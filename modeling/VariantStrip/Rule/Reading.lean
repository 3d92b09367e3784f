/-
Reading rules from documents.
-/
import VariantStrip.Document
import VariantStrip.Rule.Basic

namespace VariantStrip

open Document

variable {δ : Type} [Document δ]

/-- Reads a path. -/
def Path.read? (d : δ) : Option Path := (text? d).map Path.mk

/-- Reads a filter. -/
def StringFilter.read? (d : δ) : Option StringFilter := do
  let fs ← record? "StringFilter" ["match_type", "pattern", "ignore_case"] d
  return {
    matchType := ← optional fs "match_type" .wildcard spelled?
    pattern := ← optional fs "pattern" "*" text?
    ignoreCase := ← optional fs "ignore_case" false bool? }

/-- Reads a list of filters that may be left out. -/
def StringFilter.readList? (fs : List (String × δ)) (key : String) : Option (List StringFilter) :=
  optional fs key [] (listOf StringFilter.read?)

/-- Reads the filters of a rule on names. -/
def readNames? (d : δ) : Option (List StringFilter) := do
  let fs ← record? "ShaderNameParams" ["shader_names"] d
  StringFilter.readList? fs "shader_names"

/-- Reads the filters of a rule on paths. -/
def readPaths? (d : δ) : Option (List StringFilter) := do
  let fs ← record? "ShaderPathParams" ["paths"] d
  StringFilter.readList? fs "paths"

/-- Reads what strips variants for their keywords. -/
def KeywordOptions.read? (d : δ) : Option KeywordOptions := do
  let fs ← record? "KeywordParams" ["exclude_development_keywords", "exclude_release_keywords",
    "strip_vr_variants", "strip_lightmap_variants", "strip_fog_variants",
    "strip_instancing_variants", "strip_dots_variants"] d
  return {
    excludeDevelopment := ← StringFilter.readList? fs "exclude_development_keywords"
    excludeRelease := ← StringFilter.readList? fs "exclude_release_keywords"
    stripVr := ← optional fs "strip_vr_variants" false bool?
    stripLightmap := ← optional fs "strip_lightmap_variants" false bool?
    stripFog := ← optional fs "strip_fog_variants" false bool?
    stripInstancing := ← optional fs "strip_instancing_variants" false bool?
    stripDots := ← optional fs "strip_dots_variants" false bool? }

/-- Reads the platforms of a rule. -/
def readPlatforms? (d : δ) : Option (List Platform) := do
  let fs ← record? "PlatformParams" ["platforms"] d
  optional fs "platforms" [] (listOf spelled?)

/-- Reads the tiers to strip on a platform. -/
def PlatformTiers.read? (d : δ) : Option PlatformTiers := do
  let fs ← record? "PlatformTiers" ["platform", "strip_tier1", "strip_tier2", "strip_tier3"] d
  return {
    platform := ← required fs "platform" spelled?
    stripTier1 := ← optional fs "strip_tier1" false bool?
    stripTier2 := ← optional fs "strip_tier2" false bool?
    stripTier3 := ← optional fs "strip_tier3" false bool? }

/-- Reads the tiers to strip on several platforms. -/
def readTiers? (d : δ) : Option (List PlatformTiers) := do
  let fs ← record? "HardwareTierParams" ["platform_tiers"] d
  optional fs "platform_tiers" [] (listOf PlatformTiers.read?)

/-- Reads a type of passes to strip. -/
def PassEntry.read? (d : δ) : Option PassEntry := do
  let fs ← record? "PassStripEntry" ["shader_name_filter", "pass_type"] d
  return {
    shaderName := ← optional fs "shader_name_filter" {} StringFilter.read?
    passType := ← required fs "pass_type" spelled? }

/-- Reads the types of passes to strip. -/
def readPasses? (d : δ) : Option (List PassEntry) := do
  let fs ← record? "PassParams" ["passes"] d
  optional fs "passes" [] (listOf PassEntry.read?)

/-- Reads the catalogs of a rule. -/
def CatalogOptions.read? (d : δ) : Option CatalogOptions := do
  let fs ← record? "CatalogParams"
    ["catalogs", "match_without_local_keywords", "only_strip_shaders_in_collections"] d
  return {
    catalogs := ← optional fs "catalogs" [] (listOf Path.read?)
    matchWithoutLocalKeywords := ← optional fs "match_without_local_keywords" false bool?
    onlyStripListedShaders := ← optional fs "only_strip_shaders_in_collections" false bool? }

/-- Reads what a rule of a kind asks for. The kinds without parameters carry nothing. -/
def RuleSpec.readAs? (kind : RuleKind) (carried : Option δ) : Option RuleSpec :=
  let plain (spec : RuleSpec) : Option RuleSpec :=
    match carried with
    | none => some spec
    | some d => if isNothing d then some spec else none
  match kind with
  | .includeShaderName => (carried.bind readNames?).map .includeShaderName
  | .stripShaderName => (carried.bind readNames?).map .stripShaderName
  | .stripShaderPath => (carried.bind readPaths?).map .stripShaderPath
  | .stripKeywords => (carried.bind KeywordOptions.read?).map .stripKeywords
  | .stripPlatforms => (carried.bind readPlatforms?).map .stripPlatforms
  | .stripHardwareTier => (carried.bind readTiers?).map .stripHardwareTier
  | .stripPasses => (carried.bind readPasses?).map .stripPasses
  | .includeInternalShaders => plain .includeInternalShaders
  | .stripInternalShaders => plain .stripInternalShaders
  | .includeHiddenShaders => plain .includeHiddenShaders
  | .stripHiddenShaders => plain .stripHiddenShaders
  | .includeVariantCatalog => (carried.bind CatalogOptions.read?).map .includeVariantCatalog

/-- Reads what a rule asks for. -/
def RuleSpec.read? (d : δ) : Option RuleSpec := do
  let (name, carried) ← choice? d
  RuleSpec.readAs? (← Spelled.ofName? name) carried

/-- Reads a rule. -/
def Rule.read? (d : δ) : Option Rule := do
  let fs ← record? "RuleConfig" ["enabled", "description", "rule"] d
  return {
    enabled := ← optional fs "enabled" true bool?
    description := ← optional fs "description" "" text?
    spec := ← required fs "rule" RuleSpec.read? }

end VariantStrip
