/-
Reading catalogs.

The keywords of a variant may be written as one text, with blank characters between them.
-/
import VariantStrip.Catalog.Basic
import VariantStrip.Error
import VariantStrip.Json.Document
import VariantStrip.Json.Reader
import VariantStrip.Ron.Document
import VariantStrip.Ron.Reader
import VariantStrip.Text.Blank

namespace VariantStrip

open Document

variable {δ : Type} [Document δ]

/-- Reads keywords: a list, or one text. -/
def readKeywords? (d : δ) : Option (List String) :=
  match looseList? d with
  | some items => items.mapM text?
  | none => (text? d).map Text.words

/-- Reads a variant. -/
def CatalogVariant.read? (d : δ) : Option CatalogVariant := do
  let fs ← record? "CatalogVariant" ["pass_type", "keywords"] d
  return {
    passType := ← required fs "pass_type" spelled?
    keywords := ← optional fs "keywords" [] readKeywords? }

/-- Reads the variants of a shader. -/
def CatalogShader.read? (d : δ) : Option CatalogShader := do
  let fs ← record? "CatalogShader" ["shader", "variants"] d
  return {
    shader := ← required fs "shader" text?
    variants := ← optional fs "variants" [] (listOf CatalogVariant.read?) }

namespace Catalog

/-- Reads a catalog from a document. -/
def read? (d : δ) : Option Catalog := do
  let fs ← record? "VariantCatalog" ["shaders"] d
  return { shaders := ← optional fs "shaders" [] (listOf CatalogShader.read?) }

/-- Reads the text of a catalog, or `none` if it is not one. -/
def parse? (format : Format) (text : String) : Option Catalog :=
  match format with
  | .json => (Json.parse? text.toList).bind read?
  | .ron => (Ron.parse? text.toList).bind fun (exts, v) => read? (Ron.Node.mk exts 0 v)

/-- Reads the text of a catalog. -/
def parse (format : Format) (text : String) : Except LoadError Catalog :=
  match parse? format text with
  | some c => .ok c
  | none => .error (.malformed format)

end Catalog

end VariantStrip
