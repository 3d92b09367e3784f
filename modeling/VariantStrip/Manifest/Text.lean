/-
Manifests as JSON.
-/
import VariantStrip.Json.Document
import VariantStrip.Json.Reader
import VariantStrip.Json.Writer
import VariantStrip.Manifest.Basic

namespace VariantStrip

open Document

variable {δ : Type} [Document δ]

/-- Reads a variant. -/
def Candidate.read? (d : δ) : Option Candidate := do
  let fs ← record? "ManifestVariant" ["keywords", "platform", "tier"] d
  return {
    keywords := ← optional fs "keywords" [] (listOf text?)
    platform := ← required fs "platform" spelled?
    tier := ← optional fs "tier" .tier1 spelled? }

/-- Reads a pass. -/
def ManifestPass.read? (d : δ) : Option ManifestPass := do
  let fs ← record? "ManifestPass" ["pass_type", "pass_name", "variants"] d
  return {
    passType := ← required fs "pass_type" spelled?
    passName := ← optional fs "pass_name" "" text?
    variants := ← optional fs "variants" [] (listOf Candidate.read?) }

/-- Reads a text that may be missing. -/
def readOptionalText? (d : δ) : Option (Option String) := do
  match ← option? d with
  | none => some none
  | some d => (text? d).map some

/-- Reads a shader. -/
def ManifestShader.read? (d : δ) : Option ManifestShader := do
  let fs ← record? "ManifestShader" ["name", "path", "always_included", "local_keywords",
    "invalid_keywords", "passes"] d
  return {
    name := ← required fs "name" text?
    path := ← optional fs "path" none readOptionalText?
    alwaysIncluded := ← optional fs "always_included" false bool?
    localKeywords := ← optional fs "local_keywords" [] (listOf text?)
    invalidKeywords := ← optional fs "invalid_keywords" [] (listOf text?)
    passes := ← optional fs "passes" [] (listOf ManifestPass.read?) }

namespace Manifest

/-- Reads a manifest from a document. -/
def read? (d : δ) : Option Manifest := do
  let fs ← record? "BuildManifest" ["shaders"] d
  return { shaders := ← optional fs "shaders" [] (listOf ManifestShader.read?) }

/-- Reads the text of a manifest. -/
def parse? (text : String) : Option Manifest := (Json.parse? text.toList).bind read?

end Manifest

/-- What is written of a list of texts. -/
def textsTree (texts : List String) : Tree := .list (texts.map .text)

/-- What is written of a variant. -/
def Candidate.tree (c : Candidate) : Tree :=
  .record [("keywords", textsTree c.keywords), ("platform", .word c.platform.name),
    ("tier", .word c.tier.name)]

/-- What is written of a pass. -/
def ManifestPass.tree (p : ManifestPass) : Tree :=
  .record [("pass_type", .word p.passType.name), ("pass_name", .text p.passName),
    ("variants", .list (p.variants.map (·.tree)))]

/-- What is written of a shader; a missing path and an empty list of invalid keywords are left
out. -/
def ManifestShader.tree (s : ManifestShader) : Tree :=
  .record (
    [("name", .text s.name)]
      ++ (match s.path with
        | some path => [("path", .text path)]
        | none => [])
      ++ [("always_included", .bool s.alwaysIncluded),
        ("local_keywords", textsTree s.localKeywords)]
      ++ (if s.invalidKeywords.isEmpty then []
        else [("invalid_keywords", textsTree s.invalidKeywords)])
      ++ [("passes", .list (s.passes.map (·.tree)))])

namespace Manifest

/-- What is written of a manifest. -/
def tree (m : Manifest) : Tree := .record [("shaders", .list (m.shaders.map (·.tree)))]

/-- The text of a manifest. -/
def write (m : Manifest) : String := Json.write m.tree

end Manifest

end VariantStrip
