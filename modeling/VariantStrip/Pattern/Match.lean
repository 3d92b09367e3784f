/-
Finding matches.

`Expr.ends` takes the positions where a match may start, in ascending order, to those where it may
end. All ways to match are followed at once, so the work is bounded by the product of the sizes of
pattern and text.
-/
import VariantStrip.Pattern.Expr

namespace VariantStrip.Pattern

/-- Merges two ascending lists; `fuel` bounds the sum of their lengths. -/
def mergeAscending : (fuel : Nat) → List Nat → List Nat → List Nat
  | 0, xs, ys => xs ++ ys
  | _ + 1, [], ys => ys
  | _ + 1, xs, [] => xs
  | fuel + 1, x :: xs, y :: ys =>
    if x < y then x :: mergeAscending fuel xs (y :: ys)
    else if y < x then y :: mergeAscending fuel (x :: xs) ys
    else x :: mergeAscending fuel xs ys

/-- The members of both of two ascending lists, in ascending order. -/
def unionPositions (xs ys : List Nat) : List Nat := mergeAscending (xs.length + ys.length) xs ys

/-- Takes exactly `n` steps. Once a step changes nothing, neither do more. -/
def stepsExactly (step : List Nat → List Nat) : (n : Nat) → List Nat → List Nat
  | 0, ps => ps
  | n + 1, ps =>
    if ps.isEmpty then []
    else
      let qs := step ps
      if qs = ps then ps else stepsExactly step n qs

/-- Takes at most `n` steps, and stops as soon as a step adds nothing. -/
def stepsUpTo (step : List Nat → List Nat) : (n : Nat) → List Nat → List Nat
  | 0, ps => ps
  | n + 1, ps =>
    let qs := unionPositions ps (step ps)
    if qs = ps then ps else stepsUpTo step n qs

/-- Where matches that start at one of the given positions may end. A repetition without an upper
bound needs no more steps than there are positions. -/
def Expr.ends (text : Array Char) : Expr → List Nat → List Nat
  | empty, ps => ps
  | chars cls, ps =>
    (ps.filter fun i => match text[i]? with
      | some c => cls.contains c
      | none => false).map (· + 1)
  | look l, ps => ps.filter fun i => i ≤ text.size && l.holds text i
  | seq a b, ps =>
    match a.ends text ps with
    | [] => []
    | qs => b.ends text qs
  | alt a b, ps => unionPositions (a.ends text ps) (b.ends text ps)
  | rep a min max, ps =>
    let first := stepsExactly (a.ends text) min ps
    let more := match max with
      | some max => max - min
      | none => text.size + 1
    stepsUpTo (a.ends text) more first

/-- Whether the expression matches somewhere in the text. -/
def Expr.matchesIn (e : Expr) (text : Array Char) : Bool :=
  !(e.ends text (List.range (text.size + 1))).isEmpty

end VariantStrip.Pattern
