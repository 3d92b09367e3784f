/-
The kinds of rules and what may be combined.

Each kind states which questions it answers about a variant, whether it may stand in a list more
than once, and which kinds it excludes.
-/
import VariantStrip.Spelled

namespace VariantStrip

/-- A kind of rule. -/
inductive RuleKind where
  | includeShaderName
  | stripShaderName
  | stripShaderPath
  | stripKeywords
  | stripPlatforms
  | stripHardwareTier
  | stripPasses
  | includeInternalShaders
  | stripInternalShaders
  | includeHiddenShaders
  | stripHiddenShaders
  | includeVariantCatalog
  deriving DecidableEq, Repr

/-- What a kind of rule takes part in. -/
structure RuleTraits where
  /-- The name shown to users. -/
  title : String
  /-- The rule limits itself to some shaders. -/
  scopeGate : Bool := false
  /-- The rule may vote to keep a variant. -/
  includeVote : Bool := false
  /-- The rule may vote to strip a variant. -/
  stripVote : Bool := false
  /-- A list holds at most one rule of the kind. -/
  allowOnce : Bool := false
  /-- The kinds that may not stand in the same list. -/
  exclusiveWith : List RuleKind := []

namespace RuleKind

/-- The traits of a kind. -/
def traits : RuleKind → RuleTraits
  | includeShaderName => { title := "Include Shader Name", includeVote := true }
  | stripShaderName => { title := "Strip Shader Name", stripVote := true }
  | stripShaderPath => { title := "Strip Shader Path", stripVote := true }
  | stripKeywords => { title := "Strip Keywords", stripVote := true }
  | stripPlatforms => { title := "Strip Platforms", stripVote := true }
  | stripHardwareTier => { title := "Strip Hardware Tier", stripVote := true }
  | stripPasses => { title := "Strip Passes", stripVote := true }
  | includeInternalShaders =>
    { title := "Include Internal Shaders", scopeGate := true, includeVote := true,
      allowOnce := true, exclusiveWith := [stripInternalShaders] }
  | stripInternalShaders =>
    { title := "Strip Internal Shaders", scopeGate := true, stripVote := true,
      allowOnce := true, exclusiveWith := [includeInternalShaders] }
  | includeHiddenShaders =>
    { title := "Include Hidden Shaders", scopeGate := true, includeVote := true,
      allowOnce := true, exclusiveWith := [stripHiddenShaders] }
  | stripHiddenShaders =>
    { title := "Strip Hidden Shaders", scopeGate := true, stripVote := true,
      allowOnce := true, exclusiveWith := [includeHiddenShaders] }
  | includeVariantCatalog =>
    { title := "Include Variant Catalog", includeVote := true, stripVote := true }

/-- The name in files. -/
def name : RuleKind → String
  | includeShaderName => "IncludeShaderName"
  | stripShaderName => "StripShaderName"
  | stripShaderPath => "StripShaderPath"
  | stripKeywords => "StripKeywords"
  | stripPlatforms => "StripPlatforms"
  | stripHardwareTier => "StripHardwareTier"
  | stripPasses => "StripPasses"
  | includeInternalShaders => "IncludeInternalShaders"
  | stripInternalShaders => "StripInternalShaders"
  | includeHiddenShaders => "IncludeHiddenShaders"
  | stripHiddenShaders => "StripHiddenShaders"
  | includeVariantCatalog => "IncludeVariantCatalog"

instance : Spelled RuleKind where
  values := [includeShaderName, stripShaderName, stripShaderPath, stripKeywords, stripPlatforms,
    stripHardwareTier, stripPasses, includeInternalShaders, stripInternalShaders,
    includeHiddenShaders, stripHiddenShaders, includeVariantCatalog]
  spell := name

/-- The name shown to users. -/
def title (k : RuleKind) : String := k.traits.title

/-- All kinds, in the order of their titles. -/
def menu : List RuleKind := [includeHiddenShaders, includeInternalShaders, includeShaderName,
  includeVariantCatalog, stripHardwareTier, stripHiddenShaders, stripInternalShaders,
  stripKeywords, stripPasses, stripPlatforms, stripShaderName, stripShaderPath]

/-- Replaces the first space by a slash. -/
def slashFirstSpace : List Char → List Char
  | [] => []
  | c :: cs => if c = ' ' then '/' :: cs else c :: slashFirstSpace cs

/-- Where a menu shows the kind: below its verb. -/
def menuPath (k : RuleKind) : String := String.ofList (slashFirstSpace k.title.toList)

/-- Whether one of two kinds excludes the other. -/
def excludes (k other : RuleKind) : Bool :=
  k.traits.exclusiveWith.contains other || other.traits.exclusiveWith.contains k

end RuleKind

end VariantStrip
