/-
Internal and hidden shaders, told by their names.
-/
import VariantStrip.Text.Blank

namespace VariantStrip

/-- What the names of hidden shaders start with. -/
def hiddenFolder : List Char := "Hidden/".toList

/-- What the names of internal shaders start with. -/
def internalFolder : List Char := "Hidden/Internal".toList

/-- Whether a name starts with a text of ASCII, whatever the case of its letters. -/
def startsWithAnyCase (start name : List Char) : Bool :=
  (start.map Char.toLower).isPrefixOf (name.map Char.toLower)

/-- Whether a shader is internal: its source lies nowhere, or its name says so. -/
def isInternalShader (name : String) (path : Option String) : Bool :=
  path.all (fun p => p.toList.all Text.isBlank) || startsWithAnyCase internalFolder name.toList

/-- Whether a shader is hidden, but not internal. -/
def isHiddenShader (name : String) : Bool :=
  startsWithAnyCase hiddenFolder name.toList && !startsWithAnyCase internalFolder name.toList

end VariantStrip
