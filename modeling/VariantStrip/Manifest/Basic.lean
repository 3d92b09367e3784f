/-
Recorded builds.

A `Manifest` lists the shaders of a build with the variants that were compiled for each pass. Its
passes can be taken as work items, and put back when their variants have been filtered.
-/
import VariantStrip.Host

namespace VariantStrip

/-- A pass of a recorded shader. -/
structure ManifestPass where
  passType : PassType
  passName : String := ""
  variants : List Candidate := []
  deriving DecidableEq, Repr

/-- A recorded shader. -/
structure ManifestShader where
  name : String
  path : Option String := none
  alwaysIncluded : Bool := false
  localKeywords : List String := []
  invalidKeywords : List String := []
  passes : List ManifestPass := []
  deriving DecidableEq, Repr

/-- A recorded build. -/
structure Manifest where
  shaders : List ManifestShader := []
  deriving DecidableEq, Repr, Inhabited

/-- The candidates of one pass, and where they belong. -/
structure PassWork where
  shader : ShaderId
  shaderIndex : Nat
  passIndex : Nat
  snippet : Snippet
  candidates : List Candidate
  deriving DecidableEq, Repr

/-- The definition that a host gets of a recorded shader. -/
def ManifestShader.shader (s : ManifestShader) : Shader where
  name := s.name
  path := s.path
  alwaysIncluded := s.alwaysIncluded
  localKeywords := .ofList s.localKeywords
  invalidKeywords := .ofList s.invalidKeywords

namespace Manifest

/-- The number of variants. -/
def variantCount (m : Manifest) : Nat :=
  ((m.shaders.flatMap (·.passes)).flatMap (·.variants)).length

/-- The host that knows the recorded shaders. -/
def host (m : Manifest) : Host := .ofList (m.shaders.map (·.shader))

/-- Registers shaders one after the other, and returns the handle that each of them gets. -/
def registerAll (h : Host) : List Shader → List ShaderId
  | [] => []
  | s :: rest => h.handleOf s.name :: registerAll (h.add s) rest

/-- The handles of the recorded shaders. -/
def handles (m : Manifest) : List ShaderId := registerAll {} (m.shaders.map (·.shader))

/-- The work items of the passes of one shader, from position `i` on. -/
def passWork (shader : ShaderId) (shaderIndex i : Nat) : List ManifestPass → List PassWork
  | [] => []
  | p :: rest =>
    ⟨shader, shaderIndex, i, ⟨p.passType, p.passName⟩, p.variants⟩ ::
      passWork shader shaderIndex (i + 1) rest

/-- The work items of shaders with their handles, from position `i` on. -/
def shaderWork (i : Nat) : List ManifestShader → List ShaderId → List PassWork
  | s :: shaders, handle :: handles =>
    passWork handle i 0 s.passes ++ shaderWork (i + 1) shaders handles
  | _, _ => []

/-- Takes the variants of each pass as a work item, in the order of the passes. -/
def takeWork (m : Manifest) : List PassWork × Manifest :=
  (shaderWork 0 m.shaders m.handles,
    ⟨m.shaders.map fun s => { s with passes := s.passes.map fun p => { p with variants := [] } }⟩)

/-- Puts the candidates of a work item back into its pass. -/
def restoreItem (m : Manifest) (w : PassWork) : Manifest :=
  ⟨m.shaders.modify w.shaderIndex fun s =>
    { s with passes := s.passes.modify w.passIndex fun p => { p with variants := w.candidates } }⟩

/-- Puts work items back. -/
def restoreWork (m : Manifest) (work : List PassWork) : Manifest := work.foldl restoreItem m

end Manifest

end VariantStrip
