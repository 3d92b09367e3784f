/-
Patterns as expressions over characters and positions.

`Expr.Spans` says which stretches of a text an expression stands for. It is the meaning of
patterns; how a match is found is the business of `Pattern/Match`.
-/
import VariantStrip.Unicode.Lookup

namespace VariantStrip.Pattern

open VariantStrip.Unicode (CharClass)

/-- The side of a word that an assertion asks for. -/
inductive WordEdge where
  /-- A word starts or ends here. -/
  | boundary
  /-- No word starts or ends here. -/
  | inside
  | start
  | finish
  /-- There is no word character before. -/
  | startHalf
  /-- There is no word character after. -/
  | endHalf
  deriving DecidableEq, Repr

/-- A condition on a position of a text. -/
inductive Look where
  | textStart
  | textEnd
  | lineStart (crlf : Bool)
  | lineEnd (crlf : Bool)
  | word (unicode : Bool) (edge : WordEdge)
  deriving DecidableEq, Repr

/-- What a pattern means. -/
inductive Expr where
  | empty
  | chars (cls : CharClass)
  | look (l : Look)
  | seq (a b : Expr)
  | alt (a b : Expr)
  | rep (a : Expr) (min : Nat) (max : Option Nat)

/-- The word characters of ASCII. -/
def asciiWord : CharClass :=
  .unions [.span '0'.toNat '9'.toNat, .span 'A'.toNat 'Z'.toNat, .single '_',
    .span 'a'.toNat 'z'.toNat]

/-- Whether a character is part of words. -/
def isWordChar (unicode : Bool) (c : Char) : Bool :=
  if unicode then
    if c.toNat < 128 then asciiWord.contains c else Unicode.wordCharacters.contains c
  else asciiWord.contains c

/-- Whether a condition on the edge of a word holds, given whether word characters stand before and
after the position. -/
def WordEdge.holds (before after : Bool) : WordEdge → Bool
  | boundary => before != after
  | inside => before == after
  | start => !before && after
  | finish => before && !after
  | startHalf => !before
  | endHalf => !after

/-- The character before a position. -/
def charBefore (text : Array Char) (i : Nat) : Option Char :=
  if i = 0 then none else text[i - 1]?

/-- Whether a condition holds at position `i` of a text. -/
def Look.holds (text : Array Char) (i : Nat) : Look → Bool
  | textStart => i == 0
  | textEnd => i == text.size
  | lineStart crlf =>
    match charBefore text i with
    | none => true
    | some '\n' => true
    | some '\r' => crlf && text[i]? != some '\n'
    | some _ => false
  | lineEnd crlf =>
    match text[i]? with
    | none => true
    | some '\n' => !(crlf && charBefore text i == some '\r')
    | some '\r' => crlf
    | some _ => false
  | word unicode edge =>
    edge.holds ((charBefore text i).any (isWordChar unicode)) (text[i]?.any (isWordChar unicode))

/-- The stretches reached by `n` steps of a relation. -/
def Steps (R : Nat → Nat → Prop) : Nat → Nat → Nat → Prop
  | 0, i, j => i = j
  | n + 1, i, j => ∃ k, R i k ∧ Steps R n k j

/-- Whether the expression stands for the stretch of `text` from position `i` to `j`. -/
def Expr.Spans (text : Array Char) : Expr → Nat → Nat → Prop
  | empty, i, j => i = j
  | chars cls, i, j => j = i + 1 ∧ ∃ c, text[i]? = some c ∧ cls.contains c = true
  | look l, i, j => i = j ∧ i ≤ text.size ∧ l.holds text i = true
  | seq a b, i, j => ∃ k, a.Spans text i k ∧ b.Spans text k j
  | alt a b, i, j => a.Spans text i j ∨ b.Spans text i j
  | rep a min max, i, j => ∃ n, min ≤ n ∧ (∀ m ∈ max, n ≤ m) ∧ Steps (a.Spans text) n i j

/-- The sequence of several expressions. -/
def Expr.seqs : List Expr → Expr
  | [] => empty
  | [e] => e
  | e :: es => seq e (seqs es)

/-- The choice between several expressions; of none, nothing matches. -/
def Expr.alts : List Expr → Expr
  | [] => chars .none
  | [e] => e
  | e :: es => alt e (alts es)

end VariantStrip.Pattern
