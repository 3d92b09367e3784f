/-
The shaders that a build knows.

A `Host` is a table of shaders; the handle of a shader is its place in the table. Registering a
name again replaces the definition under the handle that the name has.
-/
import VariantStrip.Pass
import VariantStrip.Platform
import VariantStrip.StringSet

namespace VariantStrip

/-- The handle of a shader. It need not belong to any host. -/
structure ShaderId where
  index : Nat
  deriving DecidableEq, Repr

/-- How a handle is shown. -/
def ShaderId.display (id : ShaderId) : String := s!"#{id.index}"

/-- The definition of a shader. -/
structure Shader where
  name : String
  path : Option String := none
  /-- The shader is part of every build, whether it is used or not. -/
  alwaysIncluded : Bool := false
  /-- The keywords that only this shader knows. -/
  localKeywords : StringSet := .empty
  /-- The keywords that this shader must not be compiled with. -/
  invalidKeywords : StringSet := .empty

/-- A pass of a shader, as the build presents it. -/
structure Snippet where
  passType : PassType
  passName : String
  deriving DecidableEq, Repr

/-- A variant of a pass that is about to be compiled. -/
structure Candidate where
  keywords : List String
  platform : Platform
  tier : Tier
  deriving DecidableEq, Repr

/-- The shaders of a build, by handle. -/
structure Host where
  shaders : List Shader := []
  deriving Inhabited

/-- Why a variant is not valid. -/
inductive VariantFault where
  | unknownShader (id : ShaderId)
  | invalidKeyword (keyword shader : String)
  deriving DecidableEq, Repr

/-- The words for a fault. -/
def VariantFault.message : VariantFault → String
  | unknownShader id => s!"unknown shader {id.display}"
  | invalidKeyword keyword shader => s!"keyword '{keyword}' is not valid for shader '{shader}'"

namespace Host

/-- The definition under a handle. -/
def shader? (h : Host) (id : ShaderId) : Option Shader := h.shaders[id.index]?

/-- The handle of a name. -/
def find? (h : Host) (name : String) : Option ShaderId :=
  (h.shaders.findIdx? fun s => s.name == name).map ShaderId.mk

/-- The handle that a shader gets when it is added. -/
def handleOf (h : Host) (name : String) : ShaderId :=
  (h.find? name).getD ⟨h.shaders.length⟩

/-- Registers a shader. -/
def add (h : Host) (s : Shader) : Host :=
  match h.find? s.name with
  | some id => ⟨h.shaders.set id.index s⟩
  | none => ⟨h.shaders ++ [s]⟩

/-- The host that knows the shaders of a list, registered in order. -/
def ofList (shaders : List Shader) : Host := shaders.foldl add {}

/-- The number of shaders. -/
def size (h : Host) : Nat := h.shaders.length

/-- The name of a shader, empty if it is not known. -/
def nameOf (h : Host) (id : ShaderId) : String := ((h.shader? id).map (·.name)).getD ""

/-- Where the source of a shader lies, if it is known. -/
def pathOf? (h : Host) (id : ShaderId) : Option String := (h.shader? id).bind (·.path)

/-- Whether a keyword is known to one shader only. -/
def isLocal (h : Host) (id : ShaderId) (keyword : String) : Bool :=
  (h.shader? id).any (·.localKeywords.contains keyword)

/-- Whether a shader is part of every build. -/
def isAlwaysIncluded (h : Host) (id : ShaderId) : Bool := (h.shader? id).any (·.alwaysIncluded)

/-- Whether a shader may be compiled with some keywords; if not, the first reason. -/
def check (h : Host) (id : ShaderId) (keywords : List String) : Except VariantFault Unit :=
  match h.shader? id with
  | none => .error (.unknownShader id)
  | some s =>
    match keywords.find? s.invalidKeywords.contains with
    | some keyword => .error (.invalidKeyword keyword s.name)
    | none => .ok ()

end Host

end VariantStrip
