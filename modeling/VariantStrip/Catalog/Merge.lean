/-
Merging catalogs.

The merged catalog holds each variant once, in the order of first occurrence, without the keywords
that the host calls invalid. Entries of unknown shaders are dropped.

What has been seen, and where the entry of a shader stands, is found without a search.
-/
import Std.Data.HashMap
import Std.Data.HashSet
import VariantStrip.Catalog.Basic
import VariantStrip.Message
import VariantStrip.Variant

namespace VariantStrip

/-- What tells the known variants of one shader apart. -/
def CatalogVariant.identity (v : CatalogVariant) : PassType × StringSet :=
  (v.passType, .ofList v.keywords)

namespace Catalog

/-- What has been merged so far, and how many variants were repaired. -/
structure Merging where
  catalog : Catalog := {}
  /-- The variants of the catalog, with the names of their shaders. -/
  seen : Std.HashSet (String × PassType × StringSet) := {}
  /-- The position of the entry of each shader. -/
  positions : Std.HashMap String Nat := {}
  repaired : Nat := 0

/-- The keywords that are valid for a shader. -/
def validKeywords (h : Host) (shader : ShaderId) (keywords : List String) : List String :=
  keywords.filter fun keyword => (h.check shader [keyword]).isOk

/-- Removes what is not valid from a variant; the fault is returned if there was one. -/
def repair (h : Host) (shader : ShaderId) (v : CatalogVariant) :
    CatalogVariant × Option VariantFault :=
  match h.check shader v.keywords with
  | .ok () => (v, none)
  | .error fault => ({ v with keywords := validKeywords h shader v.keywords }, some fault)

namespace Merging

/-- The position of the entry of a shader; if there is none, one is added at the end. -/
def slot (m : Merging) (name : String) : Nat × Merging :=
  match m.positions[name]? with
  | some i => (i, m)
  | none =>
    (m.catalog.shaderCount,
      { m with
        catalog := ⟨m.catalog.shaders ++ [⟨name, []⟩]⟩
        positions := m.positions.insert name m.catalog.shaderCount })

/-- Puts a variant at the end of the entry of its shader, unless it has been seen. -/
def push (m : Merging) (name : String) (v : CatalogVariant) : Merging :=
  if m.seen.contains (name, v.identity) then m
  else
    let (i, m) := { m with seen := m.seen.insert (name, v.identity) }.slot name
    let shaders := m.catalog.shaders.modify i fun s => { s with variants := s.variants ++ [v] }
    { m with catalog := ⟨shaders⟩ }

/-- Merges one variant of a known shader. -/
def addVariant (h : Host) (shader : ShaderId) (name : String) (m : Merging)
    (v : CatalogVariant) : Logged Merging :=
  match repair h shader v with
  | (v, none) => return m.push name v
  | (v, some fault) => do
    Logged.say (.variantInvalid name v.passType fault.message)
    return { m with repaired := m.repaired + 1 }.push name v

/-- Merges the entry of one shader. -/
def addEntry (h : Host) (m : Merging) (entry : CatalogShader) : Logged Merging :=
  match h.find? entry.shader with
  | none => do
    Logged.say (.entryDropped entry.shader)
    return m
  | some shader => entry.variants.foldlM (addVariant h shader entry.shader) m

end Merging

/-- Merges catalogs, in order. -/
def merge (h : Host) (catalogs : List Catalog) : Logged Catalog := do
  let m ← (catalogs.flatMap (·.shaders)).foldlM (Merging.addEntry h) {}
  Logged.say (.catalogsMerged m.catalog.shaderCount m.catalog.variantCount m.repaired)
  return m.catalog

end Catalog

end VariantStrip
