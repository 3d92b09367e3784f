/-
An index of known variants.

`ReferenceIndex.insert` adds a variant unless the same one is known; `ReferenceIndex.find`
compares a set of keywords with those of a shader's known variants.
-/
import VariantStrip.Catalog.Basic
import VariantStrip.Message
import VariantStrip.Variant

namespace VariantStrip

/-- How a set of keywords compares with the known variants of a shader. -/
inductive ReferenceMatch where
  | matched
  | notMatched
  /-- No variant of the shader is known. -/
  | shaderAbsent
  deriving DecidableEq, Repr

/-- The known variants of one shader, with the sets of keywords that they are found by. -/
structure KnownVariants where
  variants : List Variant := []
  keywordSets : List StringSet := []
  globalSets : List StringSet := []

/-- Adds a variant. -/
def KnownVariants.add (k : KnownVariants) (v : Variant) : KnownVariants where
  variants := k.variants ++ [v]
  keywordSets :=
    if k.keywordSets.contains v.keywords then k.keywordSets
    else v.keywords :: k.keywordSets
  globalSets :=
    if k.globalSets.contains v.globalKeywords then k.globalSets
    else v.globalKeywords :: k.globalSets

/-- The known variants of every shader. -/
structure ReferenceIndex where
  entries : List (ShaderId × KnownVariants) := []

namespace ReferenceIndex

/-- The known variants of a shader, if there are any. -/
def entry? (x : ReferenceIndex) (shader : ShaderId) : Option KnownVariants :=
  x.entries.lookup shader

/-- The known variants of a shader, in the order in which they were added. -/
def variantsOf (x : ReferenceIndex) (shader : ShaderId) : List Variant :=
  ((x.entry? shader).map (·.variants)).getD []

/-- Whether a variant of the shader is known. -/
def containsShader (x : ReferenceIndex) (shader : ShaderId) : Bool := (x.entry? shader).isSome

/-- Whether a variant is known. -/
def contains (x : ReferenceIndex) (v : Variant) : Bool := (x.variantsOf v.shader).any v.same

/-- Adds a variant to the entry of its shader, or a new entry. -/
def addTo (v : Variant) : List (ShaderId × KnownVariants) → List (ShaderId × KnownVariants)
  | [] => [(v.shader, KnownVariants.add {} v)]
  | (shader, known) :: rest =>
    if shader = v.shader then (shader, known.add v) :: rest
    else (shader, known) :: addTo v rest

/-- Adds a variant; the flag tells whether it was new. -/
def insert (x : ReferenceIndex) (v : Variant) : Bool × ReferenceIndex :=
  if x.contains v then (false, x) else (true, ⟨addTo v x.entries⟩)

/-- The number of shaders with known variants. -/
def shaderCount (x : ReferenceIndex) : Nat := x.entries.length

/-- The number of known variants. -/
def variantCount (x : ReferenceIndex) : Nat := (x.entries.flatMap (·.2.variants)).length

/-- Compares a set of keywords with the known variants of a shader, also without local keywords
if asked to. -/
def find (x : ReferenceIndex) (shader : ShaderId) (keywords : StringSet) (withoutLocal : Bool) :
    ReferenceMatch :=
  match x.entry? shader with
  | none => .shaderAbsent
  | some known =>
    if known.keywordSets.contains keywords
        || (withoutLocal && known.globalSets.contains keywords) then .matched
    else .notMatched

/-- Adds the variants of a catalog entry, if the host knows its shader. -/
def addEntry (h : Host) (x : ReferenceIndex) (entry : CatalogShader) : Logged ReferenceIndex :=
  match h.find? entry.shader with
  | none => do
    Logged.say (.variantsSkipped entry.variants.length entry.shader)
    return x
  | some shader =>
    let add (x : ReferenceIndex) (v : CatalogVariant) : ReferenceIndex :=
      (x.insert (.ofKeywords h shader v.passType v.keywords)).2
    pure (entry.variants.foldl add x)

/-- The index of the variants of some catalogs. -/
def ofCatalogs (h : Host) (catalogs : List Catalog) : Logged ReferenceIndex := do
  let x ← (catalogs.flatMap (·.shaders)).foldlM (addEntry h) {}
  Logged.say (.indexBuilt x.variantCount x.shaderCount)
  return x

end ReferenceIndex

end VariantStrip
