/-
An estimate of which patterns there is room for.

To run the program, one has to say which patterns are within the limit on their size. Here the size
of an automaton is estimated from the expression, without building anything, since repetitions of
repetitions grow fast. The automata of an implementation differ from this: what is proved of
patterns is proved of every `Capacity`, and only runs on given inputs take the estimate.
-/
import VariantStrip.Pattern.Basic

namespace VariantStrip

namespace Unicode.CharClass

/-- About how many ranges the class takes when it is written out. -/
def rangeCount : CharClass → Nat
  | span _ _ => 1
  | table s => s.ranges.size
  | union a b => a.rangeCount + b.rangeCount
  | inter a b => max a.rangeCount b.rangeCount
  | diff a b => max a.rangeCount b.rangeCount
  | symmDiff a b => a.rangeCount + b.rangeCount
  | compl a => a.rangeCount + 1
  | folded a => a.rangeCount + 1
  | foldedAscii a => a.rangeCount + 1

/-- Whether no member lies outside ASCII, as far as the way the class was built shows it. -/
def withinAscii : CharClass → Bool
  | span first last => last ≤ 0x7F || last < first
  | table s => s.ranges.all fun r => r.2 ≤ 0x7F
  | union a b => a.withinAscii && b.withinAscii
  | inter a b => a.withinAscii || b.withinAscii
  | diff a _ => a.withinAscii
  | symmDiff a b => a.withinAscii && b.withinAscii
  | compl _ => false
  | folded _ => false
  | foldedAscii a => a.withinAscii

end Unicode.CharClass

namespace Pattern

open VariantStrip.Unicode (CharClass)

/-- How large the automaton of a pattern may be. -/
def sizeLimit : Nat := 10485760

/-- The estimated size of one state. -/
def stateSize : Nat := 32

/-- The estimated size of the states that read one character out of a few: a character by itself is
read byte by byte, and among others each has a way of its own from the first state to the last. -/
def estimateChars : List Char → Nat
  | [c] => stateSize * c.utf8Size
  | cs => cs.foldl (fun size c => size + 8 + (stateSize + 8) * (c.utf8Size - 1)) (2 * stateSize)

/-- The estimated size of the states that read one character of a class: one state for a class
within ASCII, a tree of them for the longer encodings of other characters. -/
def estimateClass (cls : CharClass) : Nat :=
  match cls with
  | .span first last =>
    if first = last then estimateChars [Char.ofNat first]
    else if last ≤ 0x7F then stateSize
    else stateSize * 8
  | .folded (.span first last) =>
    if first = last then estimateChars (Unicode.caseOrbit (Char.ofNat first))
    else 300 + stateSize * 2
  | cls =>
    if cls.withinAscii then stateSize + 8 * cls.rangeCount
    else 300 + stateSize * cls.rangeCount

/-- Whether only the empty text can match. -/
def Expr.onlyEmpty : Expr → Bool
  | empty => true
  | chars _ => false
  | look _ => true
  | seq a b => a.onlyEmpty && b.onlyEmpty
  | alt a b => a.onlyEmpty && b.onlyEmpty
  | rep a _ max => max == some 0 || a.onlyEmpty

/-- The estimated size of the automaton of an expression. A bounded repetition is written out; what
matches nothing but the empty text is repeated at most once. -/
def Expr.estimate : Expr → Nat
  | empty => stateSize
  | chars cls => estimateClass cls
  | look _ => stateSize
  | seq a b => a.estimate + b.estimate
  | alt a b => a.estimate + b.estimate + stateSize + 8
  | rep a min max =>
    let (min, max) :=
      if a.onlyEmpty then (Nat.min min 1, some (max.elim 1 (Nat.min 1))) else (min, max)
    match max with
    | none => (Nat.max min 1) * a.estimate + stateSize + 8
    | some max =>
      if max = 0 then stateSize
      else min * a.estimate + (max - min) * (a.estimate + stateSize + 8)

/-- Room for the patterns whose estimated size is within the limit. -/
instance (priority := low) estimated : Capacity where
  admits ignoreCase text := (exprOf? ignoreCase text).any fun e => e.estimate ≤ sizeLimit
  admits_star ignoreCase := by cases ignoreCase <;> decide +kernel

end Pattern

end VariantStrip
