/-
The identity of variants.

Two variants are the same if they agree in shader, type of pass and set of keywords; the name of
the pass is for information only. `signature` is the form in which keywords are reported.
-/
import VariantStrip.Host

namespace VariantStrip

/-- Keywords in the order of the build, with single spaces between them. -/
def signature (keywords : List String) : String := " ".intercalate keywords

/-- A variant of a shader. -/
structure Variant where
  shader : ShaderId
  passType : PassType
  passName : String := ""
  keywords : StringSet
  /-- The keywords that other shaders know as well. -/
  globalKeywords : StringSet

namespace Variant

/-- The variant with some keywords, of a shader of a host. -/
def ofKeywords (h : Host) (shader : ShaderId) (passType : PassType) (keywords : List String)
    (passName : String := "") : Variant :=
  let keywords := StringSet.ofList keywords
  { shader, passType, passName, keywords
    globalKeywords := keywords.filter fun k => !h.isLocal shader k }

/-- What tells variants apart. -/
def identity (v : Variant) : ShaderId × PassType × StringSet := (v.shader, v.passType, v.keywords)

/-- Whether two variants are the same. -/
def same (v w : Variant) : Bool := v.identity == w.identity

/-- The variants of a list without repetitions. -/
def distinct (vs : List Variant) : List Variant :=
  vs.foldl (fun seen v => if seen.any (same v) then seen else seen ++ [v]) []

end Variant

end VariantStrip
