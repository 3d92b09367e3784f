/-
Rules as they are configured.
-/
import VariantStrip.Filter
import VariantStrip.Pass
import VariantStrip.Platform
import VariantStrip.Path
import VariantStrip.Rule.Kind

namespace VariantStrip

/-- What strips a variant for its keywords: filters for each kind of build, and presets. -/
structure KeywordOptions where
  excludeDevelopment : List StringFilter := []
  excludeRelease : List StringFilter := []
  stripVr : Bool := false
  stripLightmap : Bool := false
  stripFog : Bool := false
  stripInstancing : Bool := false
  stripDots : Bool := false
  deriving DecidableEq, Repr, Inhabited

/-- The tiers of a platform to strip. -/
structure PlatformTiers where
  platform : Platform
  stripTier1 : Bool := false
  stripTier2 : Bool := false
  stripTier3 : Bool := false
  deriving DecidableEq, Repr

/-- Whether the variants of a tier are to be stripped. -/
def PlatformTiers.strips (t : PlatformTiers) : Tier → Bool
  | .tier1 => t.stripTier1
  | .tier2 => t.stripTier2
  | .tier3 => t.stripTier3

/-- A type of passes to strip, in the shaders whose name passes a filter. -/
structure PassEntry where
  shaderName : StringFilter := {}
  passType : PassType
  deriving DecidableEq, Repr

/-- Catalogs of known variants, and how variants are compared with them. -/
structure CatalogOptions where
  catalogs : List Path := []
  /-- Keywords that only one shader knows do not count. -/
  matchWithoutLocalKeywords : Bool := false
  /-- Shaders that no catalog lists are left alone. -/
  onlyStripListedShaders : Bool := false
  deriving DecidableEq, Repr, Inhabited

/-- What a rule asks for. -/
inductive RuleSpec where
  | includeShaderName (names : List StringFilter)
  | stripShaderName (names : List StringFilter)
  | stripShaderPath (paths : List StringFilter)
  | stripKeywords (options : KeywordOptions)
  | stripPlatforms (platforms : List Platform)
  | stripHardwareTier (tiers : List PlatformTiers)
  | stripPasses (passes : List PassEntry)
  | includeInternalShaders
  | stripInternalShaders
  | includeHiddenShaders
  | stripHiddenShaders
  | includeVariantCatalog (options : CatalogOptions)
  deriving DecidableEq, Repr

/-- The kind of a rule. -/
def RuleSpec.kind : RuleSpec → RuleKind
  | includeShaderName _ => .includeShaderName
  | stripShaderName _ => .stripShaderName
  | stripShaderPath _ => .stripShaderPath
  | stripKeywords _ => .stripKeywords
  | stripPlatforms _ => .stripPlatforms
  | stripHardwareTier _ => .stripHardwareTier
  | stripPasses _ => .stripPasses
  | includeInternalShaders => .includeInternalShaders
  | stripInternalShaders => .stripInternalShaders
  | includeHiddenShaders => .includeHiddenShaders
  | stripHiddenShaders => .stripHiddenShaders
  | includeVariantCatalog _ => .includeVariantCatalog

/-- A configured rule. -/
structure Rule where
  enabled : Bool := true
  description : String := ""
  spec : RuleSpec
  deriving DecidableEq, Repr

/-- The kind of a rule. -/
def Rule.kind (r : Rule) : RuleKind := r.spec.kind

end VariantStrip
