/-
Paths of files and folders.

A path is a text; its components are what stands between slashes, less empty ones and single
dots (a leading dot is kept). Two texts with the same components name the same place.
-/

namespace VariantStrip

/-- The path of a file or folder. -/
structure Path where
  text : String
  deriving DecidableEq, Repr, Inhabited

namespace Path

/-- One step of a path. -/
inductive Component where
  | root
  | here
  | up
  | entry (name : List Char)
  deriving DecidableEq, Repr

/-- The pieces of a text between slashes. -/
def splitSlashes (piece : List Char) : List Char → List (List Char)
  | [] => [piece.reverse]
  | c :: cs => if c = '/' then piece.reverse :: splitSlashes [] cs else splitSlashes (c :: piece) cs

/-- The component that a piece stands for, if any. -/
def componentOf? (piece : List Char) : Option Component :=
  if piece = [] ∨ piece = ['.'] then none
  else if piece = ['.', '.'] then some .up
  else some (.entry piece)

/-- Whether a path starts at the root. -/
def isAbsolute (p : Path) : Bool := p.text.toList.head? == some '/'

/-- The components of a path. -/
def components (p : Path) : List Component :=
  let pieces := splitSlashes [] p.text.toList
  let first :=
    if p.isAbsolute then [.root]
    else if pieces.head? = some ['.'] then [.here]
    else []
  first ++ pieces.filterMap componentOf?

/-- Whether the path has no text. -/
def isEmpty (p : Path) : Bool := p.text.isEmpty

/-- The name of the last component, if that is a name. -/
def fileName? (p : Path) : Option (List Char) :=
  match p.components.getLast? with
  | some (.entry name) => some name
  | _ => none

/-- The part of a file name after its last dot, unless that dot is the first character. -/
def extension? (p : Path) : Option String := do
  let name ← p.fileName?
  let tail := name.reverse.takeWhile (· != '.')
  if tail.length + 1 < name.length then some (String.ofList tail.reverse) else none

/-- A path followed by another; an absolute one stands alone. -/
def join (base p : Path) : Path :=
  if p.isAbsolute then p
  else if base.isEmpty then p
  else if base.text.toList.getLast? = some '/' then ⟨base.text ++ p.text⟩
  else ⟨base.text ++ "/" ++ p.text⟩

/-- The text of some components. -/
def textOf : List Component → List Char
  | [] => []
  | .root :: rest => '/' :: textOf rest
  | c :: rest =>
    let piece := match c with
      | .entry name => name
      | .up => ['.', '.']
      | _ => ['.']
    if rest.isEmpty then piece else piece ++ '/' :: textOf rest

/-- The path without its last component; none if there is nothing to remove. -/
def parent? (p : Path) : Option Path :=
  match p.components.getLast? with
  | none | some .root => none
  | some _ => some ⟨String.ofList (textOf p.components.dropLast)⟩

end Path

end VariantStrip
