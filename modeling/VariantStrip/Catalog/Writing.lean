/-
Writing catalogs.
-/
import VariantStrip.Catalog.Basic
import VariantStrip.Format
import VariantStrip.Json.Writer
import VariantStrip.Ron.Writer

namespace VariantStrip

/-- What is written of a variant. -/
def CatalogVariant.tree (v : CatalogVariant) : Tree :=
  .record [("pass_type", .word v.passType.name), ("keywords", .list (v.keywords.map .text))]

/-- What is written of the variants of a shader. -/
def CatalogShader.tree (s : CatalogShader) : Tree :=
  .record [("shader", .text s.shader), ("variants", .list (s.variants.map (·.tree)))]

namespace Catalog

/-- What is written of a catalog. -/
def tree (c : Catalog) : Tree := .record [("shaders", .list (c.shaders.map (·.tree)))]

/-- The text of a catalog. -/
def write (format : Format) (c : Catalog) : String :=
  match format with
  | .json => Json.write c.tree
  | .ron => Ron.write c.tree

end Catalog

end VariantStrip
