/-
Catalogs: lists of variants that are known to be needed, by the names of shaders.
-/
import VariantStrip.Pass

namespace VariantStrip

/-- A known variant of a shader; its keywords are kept as they were written. -/
structure CatalogVariant where
  passType : PassType
  keywords : List String
  deriving DecidableEq, Repr

/-- The known variants of one shader. -/
structure CatalogShader where
  shader : String
  variants : List CatalogVariant
  deriving DecidableEq, Repr

/-- A list of known variants. -/
structure Catalog where
  shaders : List CatalogShader := []
  deriving DecidableEq, Repr, Inhabited

namespace Catalog

/-- The number of entries. -/
def shaderCount (c : Catalog) : Nat := c.shaders.length

/-- The number of variants in all entries. -/
def variantCount (c : Catalog) : Nat := (c.shaders.flatMap (·.variants)).length

/-- Adds a variant to the first entry with the name, or a new entry at the end. -/
def addTo (name : String) (v : CatalogVariant) : List CatalogShader → List CatalogShader
  | [] => [⟨name, [v]⟩]
  | s :: rest =>
    if s.shader = name then { s with variants := s.variants ++ [v] } :: rest
    else s :: addTo name v rest

/-- Adds a variant of a shader. -/
def add (c : Catalog) (name : String) (v : CatalogVariant) : Catalog := ⟨addTo name v c.shaders⟩

end Catalog

end VariantStrip
