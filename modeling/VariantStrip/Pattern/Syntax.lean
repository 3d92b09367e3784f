/-
The written structure of a pattern.

An `Ast` is what a pattern text says before flags are applied to it: letters are not yet folded
and names of character classes not yet looked up.
-/

namespace VariantStrip.Pattern

/-- A switch that a pattern can turn on or off in the middle of its text. -/
inductive Flag where
  | ignoreCase
  | multiLine
  | dotMatchesNewline
  | swapGreed
  | unicode
  | crlf
  | verbose
  deriving DecidableEq, Repr

/-- The switches that a group or a directive sets. -/
structure FlagChange where
  on : List Flag := []
  off : List Flag := []
  deriving DecidableEq, Repr

/-- A character of the text; `asByte` if it is written with two hexadecimal digits, in which case
it may stand for a byte. -/
structure Literal where
  char : Char
  asByte : Bool := false
  deriving DecidableEq, Repr

/-- The classes with a one-letter escape. -/
inductive PerlClass where
  | digit
  | space
  | word
  deriving DecidableEq, Repr

/-- The classes with a name between colons. -/
inductive PosixClass where
  | alnum | alpha | ascii | blank | cntrl | digit | graph | lower | print | punct | space | upper
  | word | xdigit
  deriving DecidableEq, Repr

/-- A class of characters asked for by a name, or by a name and a value. -/
inductive PropertyQuery where
  | named (name : List Char)
  | valued (name value : List Char)
  deriving DecidableEq, Repr

/-- A condition on a position. -/
inductive Assertion where
  | startLine | endLine | startText | endText
  | wordBoundary | notWordBoundary
  | wordStart | wordEnd | wordStartHalf | wordEndHalf
  deriving DecidableEq, Repr

/-- The operations between the parts of a bracketed class. -/
inductive SetOp where
  | inter
  | diff
  | symmDiff
  deriving DecidableEq, Repr

/-- What stands between the brackets of a class. -/
inductive SetNode where
  | literal (l : Literal)
  | range (first last : Literal)
  | posix (negated : Bool) (cls : PosixClass)
  | perl (negated : Bool) (cls : PerlClass)
  | property (negated : Bool) (query : PropertyQuery)
  | bracket (negated : Bool) (body : SetNode)
  | union (items : List SetNode)
  | op (kind : SetOp) (lhs rhs : SetNode)

/-- A pattern as it is written. -/
inductive Ast where
  | empty
  | flags (change : FlagChange)
  | literal (l : Literal)
  | dot
  | assertion (a : Assertion)
  | perl (negated : Bool) (cls : PerlClass)
  | property (negated : Bool) (query : PropertyQuery)
  | bracket (negated : Bool) (body : SetNode)
  | repetition (sub : Ast) (min : Nat) (max : Option Nat)
  | group (change : FlagChange) (sub : Ast)
  | alternation (branches : List Ast)
  | concat (items : List Ast)

/-- The union of several items; a single item is its own union. -/
def SetNode.ofItems : List SetNode → SetNode
  | [item] => item
  | items => .union items

/-- The sequence of several items; a single item is its own sequence. -/
def Ast.ofItems : List Ast → Ast
  | [] => .empty
  | [item] => item
  | items => .concat items

mutual

/-- How deeply brackets, unions and operations are nested in a class. -/
def SetNode.depth : SetNode → Nat
  | .bracket _ body => body.depth + 1
  | .union items => SetNode.maxDepth items + 1
  | .op _ lhs rhs => max lhs.depth rhs.depth + 1
  | .literal _ | .range _ _ | .posix _ _ | .perl _ _ | .property _ _ => 0

/-- The greatest depth in a list. -/
def SetNode.maxDepth : List SetNode → Nat
  | [] => 0
  | item :: items => max item.depth (SetNode.maxDepth items)

end

mutual

/-- How deeply the constructs of a pattern are nested. -/
def Ast.depth : Ast → Nat
  | .bracket _ body => body.depth + 1
  | .repetition sub _ _ => sub.depth + 1
  | .group _ sub => sub.depth + 1
  | .alternation branches => Ast.maxDepth branches + 1
  | .concat items => Ast.maxDepth items + 1
  | .empty | .flags _ | .literal _ | .dot | .assertion _ | .perl _ _ | .property _ _ => 0

/-- The greatest depth in a list. -/
def Ast.maxDepth : List Ast → Nat
  | [] => 0
  | item :: items => max item.depth (Ast.maxDepth items)

end

/-- The greatest depth that a pattern may have. -/
def depthLimit : Nat := 250

end VariantStrip.Pattern
