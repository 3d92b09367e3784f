/-
What a written pattern means.

The switches in force decide it: they are threaded through the parts of a pattern in the order in
which these are written, and what a group sets ends with the group.
-/
import VariantStrip.Pattern.Syntax
import VariantStrip.Pattern.Expr

namespace VariantStrip.Pattern

open VariantStrip.Unicode (CharClass)

/-- The switches that matter to the meaning of a pattern. -/
structure Switches where
  ignoreCase : Bool := false
  multiLine : Bool := false
  dotMatchesNewline : Bool := false
  unicode : Bool := true
  crlf : Bool := false
  deriving DecidableEq, Repr

/-- The value of a switch after a change. -/
def FlagChange.after (change : FlagChange) (flag : Flag) (before : Bool) : Bool :=
  if change.on.contains flag then true
  else if change.off.contains flag then false
  else before

/-- The switches after a change. -/
def Switches.apply (s : Switches) (change : FlagChange) : Switches where
  ignoreCase := change.after .ignoreCase s.ignoreCase
  multiLine := change.after .multiLine s.multiLine
  dotMatchesNewline := change.after .dotMatchesNewline s.dotMatchesNewline
  unicode := change.after .unicode s.unicode
  crlf := change.after .crlf s.crlf

/-- Adds what equals a member when case is to be ignored. -/
def Switches.fold (s : Switches) (cls : CharClass) : CharClass :=
  if s.ignoreCase then if s.unicode then .folded cls else .foldedAscii cls else cls

/-- The complement of a class, if `negated`. Without Unicode a class is made of bytes, and a
complement would hold bytes that are no characters. -/
def Switches.negate (s : Switches) (negated : Bool) (cls : CharClass) : Option CharClass :=
  if negated then if s.unicode then some (.compl cls) else none else some cls

/-- The members of a class with a one-letter escape. -/
def PerlClass.members (unicode : Bool) : PerlClass → CharClass
  | digit => if unicode then .table Unicode.Category.decimalNumber else .span '0'.toNat '9'.toNat
  | space =>
    if unicode then .table Unicode.whiteSpace
    else .unions [.span 9 13, .single ' ']
  | word => if unicode then Unicode.wordCharacters else asciiWord

/-- The members of a class with a name between colons. -/
def PosixClass.members : PosixClass → CharClass
  | alnum => .unions [.span 0x30 0x39, .span 0x41 0x5A, .span 0x61 0x7A]
  | alpha => .unions [.span 0x41 0x5A, .span 0x61 0x7A]
  | ascii => .ascii
  | blank => .unions [.single '\t', .single ' ']
  | cntrl => .unions [.span 0 0x1F, .single '\x7f']
  | digit => .span 0x30 0x39
  | graph => .span 0x21 0x7E
  | lower => .span 0x61 0x7A
  | print => .span 0x20 0x7E
  | punct => .unions [.span 0x21 0x2F, .span 0x3A 0x40, .span 0x5B 0x60, .span 0x7B 0x7E]
  | space => .unions [.span 9 13, .single ' ']
  | upper => .span 0x41 0x5A
  | word => asciiWord
  | xdigit => .unions [.span 0x30 0x39, .span 0x41 0x46, .span 0x61 0x66]

/-- The members that a property asks for. -/
def PropertyQuery.members? : PropertyQuery → Option CharClass
  | named name => Unicode.classNamed name
  | valued name value => Unicode.classValued name value

/-- The class of a property, which needs Unicode. -/
def propertyClass? (s : Switches) (negated : Bool) (query : PropertyQuery) : Option CharClass :=
  if s.unicode then query.members?.bind fun cls => s.negate negated (s.fold cls) else none

/-- The code point of a character in a class; without Unicode it has to be in ASCII. -/
def Literal.codePoint? (s : Switches) (l : Literal) : Option Nat :=
  if s.unicode ∨ l.char.toNat ≤ 0x7F then some l.char.toNat else none

/-- Two classes joined by an operation. -/
def SetOp.apply : SetOp → CharClass → CharClass → CharClass
  | inter, a, b => .inter a b
  | diff, a, b => .diff a b
  | symmDiff, a, b => .symmDiff a b

mutual

/-- The members of a part of a bracketed class. Case is folded where the part ends, before it is
negated. -/
def SetNode.members? (s : Switches) : SetNode → Option CharClass
  | .literal l => do
    let n ← l.codePoint? s
    return .span n n
  | .range first last => do
    return .span (← first.codePoint? s) (← last.codePoint? s)
  | .posix negated cls => s.negate negated (s.fold cls.members)
  | .perl negated cls => s.negate negated (cls.members s.unicode)
  | .property negated query => propertyClass? s negated query
  | .bracket negated body => (body.members? s).bind fun cls => s.negate negated (s.fold cls)
  | .union items => (SetNode.allMembers? s items).map CharClass.unions
  | .op kind lhs rhs => do
    let a ← lhs.members? s
    let b ← rhs.members? s
    return kind.apply (s.fold a) (s.fold b)

/-- The members of each item of a list. -/
def SetNode.allMembers? (s : Switches) : List SetNode → Option (List CharClass)
  | [] => some []
  | item :: items => do
    let cls ← item.members? s
    return cls :: (← SetNode.allMembers? s items)

end

/-- The meaning of a character. Without Unicode, two hexadecimal digits may name a byte that is no
character. -/
def Literal.expr? (s : Switches) (l : Literal) : Option Expr :=
  if !s.unicode ∧ l.asByte ∧ 0x7F < l.char.toNat then none
  else some (.chars (s.fold (.single l.char)))

/-- The meaning of a dot. -/
def dotExpr? (s : Switches) : Option Expr :=
  if !s.unicode then none
  else if s.dotMatchesNewline then some (.chars .all)
  else if s.crlf then some (.chars (.compl (.union (.single '\r') (.single '\n'))))
  else some (.chars (.compl (.single '\n')))

/-- The meaning of a condition on a position. -/
def Assertion.look (s : Switches) : Assertion → Look
  | startLine => if s.multiLine then .lineStart s.crlf else .textStart
  | endLine => if s.multiLine then .lineEnd s.crlf else .textEnd
  | startText => .textStart
  | endText => .textEnd
  | wordBoundary => .word s.unicode .boundary
  | notWordBoundary => .word s.unicode .inside
  | wordStart => .word s.unicode .start
  | wordEnd => .word s.unicode .finish
  | wordStartHalf => .word s.unicode .startHalf
  | wordEndHalf => .word s.unicode .endHalf

mutual

/-- The meaning of a pattern under the given switches, with the switches after it. -/
def Ast.expr? (s : Switches) : Ast → Option (Expr × Switches)
  | .empty => some (.empty, s)
  | .flags change => some (.empty, s.apply change)
  | .literal l => (l.expr? s).map (·, s)
  | .dot => (dotExpr? s).map (·, s)
  | .assertion a => some (.look (a.look s), s)
  | .perl negated cls => (s.negate negated (cls.members s.unicode)).map (.chars ·, s)
  | .property negated query => (propertyClass? s negated query).map (.chars ·, s)
  | .bracket negated body =>
    ((body.members? s).bind fun cls => s.negate negated (s.fold cls)).map (.chars ·, s)
  | .repetition sub min max => (sub.expr? s).map fun (e, s) => (.rep e min max, s)
  | .group change sub => (sub.expr? (s.apply change)).map fun (e, _) => (e, s)
  | .alternation branches => (Ast.exprs? s branches).map fun (es, s) => (.alts es, s)
  | .concat items => (Ast.exprs? s items).map fun (es, s) => (.seqs es, s)

/-- The meaning of each part of a list, from left to right. -/
def Ast.exprs? (s : Switches) : List Ast → Option (List Expr × Switches)
  | [] => some ([], s)
  | item :: items => do
    let (e, s) ← item.expr? s
    let (es, s) ← Ast.exprs? s items
    return (e :: es, s)

end

end VariantStrip.Pattern
