/-
Patterns that are ready to be matched.

* `exprOf?` reads a pattern and refuses what is malformed or nested too deeply,
* `compile?` refuses also the patterns for which there is no room (`Capacity`),
* `isMatch` tells whether a text contains a match.
-/
import VariantStrip.Pattern.Parser
import VariantStrip.Pattern.Translate
import VariantStrip.Pattern.Match

namespace VariantStrip

/-- A pattern that has been read. -/
structure Pattern where
  expr : Pattern.Expr

namespace Pattern

/-- The expression that the characters of a pattern stand for. -/
def exprOf? (ignoreCase : Bool) (text : List Char) : Option Expr := do
  let ast ← parse? text
  let (e, _) ← ast.expr? { ignoreCase }
  return e

/-- The patterns for which there is room.

A pattern is stored as an automaton of limited size, and it depends on how automata are made which
patterns keep to the limit. So this is a parameter of everything that makes patterns ready; all that
is known of it is that there is room for the pattern of a single star, by which names are filtered
unless another filter is configured. -/
class Capacity where
  /-- Whether there is room for the pattern that some characters write. -/
  admits (ignoreCase : Bool) (text : List Char) : Bool
  admits_star (ignoreCase : Bool) : admits ignoreCase ['^', '.', '*', '$'] = true

/-- Reads a pattern, or `none` if it is no pattern or there is no room for it. -/
def compile? [Capacity] (ignoreCase : Bool) (text : List Char) : Option Pattern := do
  let e ← exprOf? ignoreCase text
  if Capacity.admits ignoreCase text then some ⟨e⟩ else none

/-- Whether the text contains a match. -/
def isMatch (p : Pattern) (text : String) : Bool := p.expr.matchesIn text.toList.toArray

end Pattern

end VariantStrip
