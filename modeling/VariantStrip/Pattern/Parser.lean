/-
Reading the text of a pattern.

`parse?` reads a whole text, one construct after the other. `step` reads one construct; what it
has read so far is a `ParseState`. In verbose mode, blank characters and comments between the
parts of a construct do not count.
-/
import VariantStrip.Text.Blank
import VariantStrip.Text.Digit
import VariantStrip.Unicode.Lookup
import VariantStrip.Pattern.Syntax

namespace VariantStrip.Pattern

open VariantStrip.Text (charOfNat? hexValue? isBlank)

/-! ### Blank characters and comments -/

/-- Skips blank characters and comments; `inComment` inside a comment. -/
def skipVerbose (inComment : Bool) : List Char → List Char
  | [] => []
  | c :: cs =>
    if inComment then skipVerbose (c != '\n') cs
    else if isBlank c then skipVerbose false cs
    else if c = '#' then skipVerbose true cs
    else c :: cs

/-- Skips what does not count: nothing, unless in verbose mode. -/
def skip (verbose : Bool) (cs : List Char) : List Char :=
  if verbose then skipVerbose false cs else cs

/-- The character after a hyphen, blank characters and comments aside. -/
def peekAfter (verbose : Bool) (cs : List Char) : Option Char :=
  if verbose then
    let rest := match cs.dropWhile isBlank with
      | '#' :: rest => rest.dropWhile isBlank
      | rest => rest
    rest.head? <|> cs.head?
  else cs.head?

/-! ### Escapes -/

/-- The characters with a meaning of their own. -/
def isMeta (c : Char) : Bool := "\\.+*?()|[]\x7b\x7d^$#&-~".toList.contains c

/-- The characters that may follow a backslash and then stand for themselves. -/
def isEscapable (c : Char) : Bool :=
  isMeta c || (c.toNat < 128 && !c.isAlphanum && c != '<' && c != '>')

/-- Reads exactly `count` hexadecimal digits. -/
def hexFixed (verbose : Bool) : (count acc : Nat) → List Char → Option (Nat × List Char)
  | 0, acc, cs => some (acc, cs)
  | _ + 1, _, [] => none
  | count + 1, acc, c :: cs => do
    let d ← hexValue? c
    hexFixed verbose count (acc * 16 + d) (skip verbose cs)

/-- Reads hexadecimal digits up to a closing brace; `fuel` bounds their number. -/
def hexBraced (verbose : Bool) :
    (fuel : Nat) → (digits : List Nat) → List Char → Option (Nat × List Char)
  | 0, _, _ => none
  | fuel + 1, digits, cs =>
    match skip verbose cs with
    | [] => none
    | '\x7d' :: rest =>
      if digits.isEmpty then none
      else some (digits.foldr (fun d acc => acc * 16 + d) 0, skip verbose rest)
    | c :: rest => do
      let d ← hexValue? c
      hexBraced verbose fuel (d :: digits) rest

/-- What a single character or an escape stands for. -/
inductive Primitive where
  | literal (l : Literal)
  | dot
  | assertion (a : Assertion)
  | perl (negated : Bool) (cls : PerlClass)
  | property (negated : Bool) (query : PropertyQuery)

/-- Reads a hexadecimal escape after its letter. -/
def hexEscape (verbose : Bool) (width : Nat) (cs : List Char) :
    Option (Primitive × List Char) := do
  let (n, rest, fixed) ← match skip verbose cs with
    | '\x7b' :: rest => (hexBraced verbose (rest.length + 1) [] rest).map fun r => (r.1, r.2, false)
    | cs => (hexFixed verbose width 0 cs).map fun r => (r.1, r.2, true)
  let c ← charOfNat? n
  return (.literal ⟨c, fixed && width == 2⟩, rest)

/-- Splits a text at the first place where `sep` stands. -/
def splitAt? (sep : List Char) : List Char → Option (List Char × List Char)
  | [] => none
  | c :: cs =>
    if sep.isPrefixOf (c :: cs) then some ([], (c :: cs).drop sep.length)
    else (splitAt? sep cs).map fun (a, b) => (c :: a, b)

/-- Reads the name of a property up to the closing brace; `fuel` bounds its length. -/
def bracedName (verbose : Bool) :
    (fuel : Nat) → (name : List Char) → List Char → Option (List Char × List Char)
  | 0, _, _ => none
  | fuel + 1, name, cs =>
    match skip verbose cs with
    | [] => none
    | '\x7d' :: rest => some (name.reverse, rest)
    | c :: rest => bracedName verbose fuel (c :: name) rest

/-- What the text between the braces of a property asks for. -/
def propertyOfName (negated : Bool) (name : List Char) : Primitive :=
  match splitAt? ['!', '='] name with
  | some (n, v) => .property (!negated) (.valued n v)
  | none => match splitAt? [':'] name with
    | some (n, v) => .property negated (.valued n v)
    | none => match splitAt? ['='] name with
      | some (n, v) => .property negated (.valued n v)
      | none => .property negated (.named name)

/-- Reads a property escape after its letter. -/
def propertyEscape (verbose negated : Bool) (cs : List Char) :
    Option (Primitive × List Char) :=
  match skip verbose cs with
  | [] => none
  | '\x7b' :: rest =>
    (bracedName verbose (rest.length + 1) [] rest).map fun (name, rest) =>
      (propertyOfName negated name, rest)
  | '\\' :: _ => none
  | c :: rest => some (.property negated (.named [c]), skip verbose rest)

/-- The characters of the names of word assertions. -/
def isBoundaryNameChar (c : Char) : Bool := c.isAlpha || c == '-'

/-- Reads the characters of the name of a word assertion; `fuel` bounds their number. -/
def boundaryName (verbose : Bool) :
    (fuel : Nat) → (name : List Char) → List Char → List Char × List Char
  | 0, name, cs => (name.reverse, cs)
  | fuel + 1, name, cs =>
    match cs with
    | c :: rest =>
      if isBoundaryNameChar c then boundaryName verbose fuel (c :: name) (skip verbose rest)
      else (name.reverse, cs)
    | [] => (name.reverse, cs)

/-- Reads what may follow the escape of a word boundary: a brace with the name of a more special
assertion. A brace that does not start a name is left for a repetition. -/
def wordBoundary (verbose : Bool) (cs : List Char) : Option (Primitive × List Char) :=
  match cs with
  | '\x7b' :: inner =>
    match skip verbose inner with
    | [] => none
    | c :: rest =>
      if isBoundaryNameChar c then
        match boundaryName verbose (rest.length + 1) [] (c :: rest) with
        | (name, '\x7d' :: after) =>
          if name = "start".toList then some (.assertion .wordStart, after)
          else if name = "end".toList then some (.assertion .wordEnd, after)
          else if name = "start-half".toList then some (.assertion .wordStartHalf, after)
          else if name = "end-half".toList then some (.assertion .wordEndHalf, after)
          else none
        | _ => none
      else some (.assertion .wordBoundary, cs)
  | _ => some (.assertion .wordBoundary, cs)

/-- Reads an escape after its backslash. -/
def escape (verbose : Bool) : List Char → Option (Primitive × List Char)
  | [] => none
  | c :: cs =>
    if isEscapable c then some (.literal ⟨c, false⟩, cs)
    else match c with
      | 'x' => hexEscape verbose 2 cs
      | 'u' => hexEscape verbose 4 cs
      | 'U' => hexEscape verbose 8 cs
      | 'p' => propertyEscape verbose false cs
      | 'P' => propertyEscape verbose true cs
      | 'd' => some (.perl false .digit, cs)
      | 'D' => some (.perl true .digit, cs)
      | 's' => some (.perl false .space, cs)
      | 'S' => some (.perl true .space, cs)
      | 'w' => some (.perl false .word, cs)
      | 'W' => some (.perl true .word, cs)
      | 'a' => some (.literal ⟨'\x07', false⟩, cs)
      | 'f' => some (.literal ⟨'\x0c', false⟩, cs)
      | 't' => some (.literal ⟨'\t', false⟩, cs)
      | 'n' => some (.literal ⟨'\n', false⟩, cs)
      | 'r' => some (.literal ⟨'\r', false⟩, cs)
      | 'v' => some (.literal ⟨'\x0b', false⟩, cs)
      | 'A' => some (.assertion .startText, cs)
      | 'z' => some (.assertion .endText, cs)
      | 'b' => wordBoundary verbose cs
      | 'B' => some (.assertion .notWordBoundary, cs)
      | '<' => some (.assertion .wordStart, cs)
      | '>' => some (.assertion .wordEnd, cs)
      | _ => none

/-! ### Bracketed classes -/

/-- The class that a name between colons stands for. -/
def PosixClass.ofName? (name : List Char) : Option PosixClass :=
  [("alnum", alnum), ("alpha", alpha), ("ascii", ascii), ("blank", blank), ("cntrl", cntrl),
    ("digit", digit), ("graph", graph), ("lower", lower), ("print", print), ("punct", punct),
    ("space", space), ("upper", upper), ("word", word), ("xdigit", xdigit)].lookup
      (String.ofList name)

/-- Reads a class with a name between colons, after its opening bracket; anything else is not
one. -/
def posixClass? (cs : List Char) : Option (SetNode × List Char) := do
  let (negated, cs) ← match cs with
    | ':' :: '^' :: cs => some (true, cs)
    | ':' :: cs => some (false, cs)
    | _ => none
  let name := cs.takeWhile (· != ':')
  match cs.dropWhile (· != ':') with
  | ':' :: ']' :: rest =>
    let cls ← PosixClass.ofName? name
    return (.posix negated cls, rest)
  | _ => none

/-- A class being read: whether it is negated, the operation and left side that its next part
belongs to, the items of that part (last one first). -/
structure SetState where
  negated : Bool
  lhs : Option (SetOp × SetNode) := none
  items : List SetNode := []

/-- The part being read, with the left side before it. -/
def SetState.body (s : SetState) : SetNode :=
  let part := SetNode.ofItems s.items.reverse
  match s.lhs with
  | some (op, lhs) => .op op lhs part
  | none => part

/-- Adds an item to the part being read. -/
def SetState.push (s : SetState) (item : SetNode) : SetState := { s with items := item :: s.items }

/-- Ends the part being read with an operation. -/
def SetState.operate (s : SetState) (op : SetOp) : SetState :=
  { s with lhs := some (op, s.body), items := [] }

/-- Reads hyphens at the start of a class, each for itself; `fuel` bounds their number. -/
def leadingHyphens (verbose : Bool) : (fuel : Nat) → SetState → List Char → SetState × List Char
  | 0, s, cs => (s, cs)
  | fuel + 1, s, cs =>
    match cs with
    | '-' :: rest =>
      leadingHyphens verbose fuel (s.push (.literal ⟨'-', false⟩)) (skip verbose rest)
    | _ => (s, cs)

/-- Reads the start of a class after its opening bracket: a caret, then hyphens or a closing
bracket that stand for themselves. -/
def setStart (verbose : Bool) (cs : List Char) : Option (SetState × List Char) :=
  let cs := skip verbose cs
  let (negated, cs) := match cs with
    | '^' :: rest => (true, skip verbose rest)
    | _ => (false, cs)
  let (s, cs) := leadingHyphens verbose cs.length { negated } cs
  let (s, cs) := match s.items, cs with
    | [], ']' :: rest => (s.push (.literal ⟨']', false⟩), skip verbose rest)
    | _, _ => (s, cs)
  if cs.isEmpty then none else some (s, cs)

/-- Reads one character or escape inside a class. -/
def setPrimitive (verbose : Bool) : List Char → Option (Primitive × List Char)
  | [] => none
  | '\\' :: cs => escape verbose cs
  | c :: cs => some (.literal ⟨c, false⟩, cs)

/-- An item of a class from a character or escape. -/
def Primitive.toSetNode? : Primitive → Option SetNode
  | .literal l => some (.literal l)
  | .perl negated cls => some (.perl negated cls)
  | .property negated query => some (.property negated query)
  | .dot | .assertion _ => none

/-- The end of a range from a character or escape. -/
def Primitive.toLiteral? : Primitive → Option Literal
  | .literal l => some l
  | _ => none

/-- Reads one item of a class: a character, an escape or a range. -/
def setItem (verbose : Bool) (cs : List Char) : Option (SetNode × List Char) := do
  let (first, rest) ← setPrimitive verbose cs
  match skip verbose rest with
  | [] => none
  | '-' :: after =>
    let next := peekAfter verbose after
    if next == some ']' || next == some '-' then
      return (← first.toSetNode?, '-' :: after)
    else
      match skip verbose after with
      | [] => none
      | after =>
        let (last, rest) ← setPrimitive verbose after
        let first ← first.toLiteral?
        let last ← last.toLiteral?
        if first.char ≤ last.char then return (.range first last, rest) else none
  | rest => return (← first.toSetNode?, rest)

/-- Reads a class after its start. `outer` holds the classes around it, innermost first; `fuel`
bounds the number of items. -/
def setBody (verbose : Bool) : (fuel : Nat) → SetState → (outer : List SetState) → List Char →
    Option (Bool × SetNode × List Char)
  | 0, _, _, _ => none
  | fuel + 1, s, outer, cs =>
    match skip verbose cs with
    | [] => none
    | '[' :: rest =>
      match posixClass? rest with
      | some (item, rest) => setBody verbose fuel (s.push item) outer rest
      | none => do
        let (inner, rest) ← setStart verbose rest
        setBody verbose fuel inner (s :: outer) rest
    | ']' :: rest =>
      match outer with
      | [] => some (s.negated, s.body, rest)
      | parent :: outer => setBody verbose fuel (parent.push (.bracket s.negated s.body)) outer rest
    | '&' :: '&' :: rest => setBody verbose fuel (s.operate .inter) outer rest
    | '-' :: '-' :: rest => setBody verbose fuel (s.operate .diff) outer rest
    | '~' :: '~' :: rest => setBody verbose fuel (s.operate .symmDiff) outer rest
    | cs => do
      let (item, rest) ← setItem verbose cs
      setBody verbose fuel (s.push item) outer rest

/-- Reads a class after its opening bracket. -/
def bracketClass (verbose : Bool) (cs : List Char) : Option (Ast × List Char) := do
  let (s, rest) ← setStart verbose cs
  let (negated, body, rest) ← setBody verbose (rest.length + 1) s [] rest
  return (.bracket negated body, rest)

/-! ### Repetitions -/

/-- Whether something can be repeated. -/
def Ast.isRepeatable : Ast → Bool
  | .empty | .flags _ => false
  | _ => true

/-- Skips the mark of a reluctant repetition, which changes no outcome. -/
def skipReluctant : List Char → List Char
  | '?' :: cs => cs
  | cs => cs

/-- Reads decimal digits; `fuel` bounds their number. -/
def countDigits (verbose : Bool) : (fuel : Nat) → (digits : List Nat) → List Char →
    List Nat × List Char
  | 0, digits, cs => (digits, cs)
  | fuel + 1, digits, cs =>
    match cs with
    | c :: rest =>
      if c.isDigit then
        countDigits verbose fuel ((c.toNat - '0'.toNat) :: digits) (skip verbose rest)
      else (digits, cs)
    | [] => (digits, cs)

/-- Reads a count with the blank characters around it: no digits are no count, and a count has 32
bits. -/
def repetitionCount (verbose : Bool) (cs : List Char) : Option Nat × List Char :=
  let (digits, rest) := countDigits verbose cs.length [] (cs.dropWhile isBlank)
  let value := digits.foldr (fun d acc => acc * 10 + d) 0
  let count := if digits.isEmpty ∨ Nat.pow 2 32 ≤ value then none else some value
  (count, skip verbose (rest.dropWhile isBlank))

/-- Reads a counted repetition after its opening brace. -/
def countedRange (verbose : Bool) (cs : List Char) : Option (Nat × Option Nat × List Char) := do
  let (first, rest) := repetitionCount verbose (skip verbose cs)
  let min ← first
  let (max, rest) ← match rest with
    | ',' :: rest =>
      match skip verbose rest with
      | '\x7d' :: rest => some (none, '\x7d' :: rest)
      | rest => do
        let (last, rest) := repetitionCount verbose rest
        some (some (← last), rest)
    | rest => some (some min, rest)
  match rest with
  | '\x7d' :: rest =>
    if max.all (min ≤ ·) then some (min, max, skipReluctant (skip verbose rest)) else none
  | _ => none

/-! ### Groups -/

/-- The switch with a letter. -/
def Flag.ofChar? : Char → Option Flag
  | 'i' => some .ignoreCase
  | 'm' => some .multiLine
  | 's' => some .dotMatchesNewline
  | 'U' => some .swapGreed
  | 'u' => some .unicode
  | 'R' => some .crlf
  | 'x' => some .verbose
  | _ => none

/-- Reads the switches of a group up to the colon or closing bracket, which is returned. Each
switch and the minus sign may stand once, and the sign not last. -/
def flagChange (change : FlagChange) (negated dangling : Bool) :
    List Char → Option (FlagChange × Char × List Char)
  | [] => none
  | c :: cs =>
    if c = ':' ∨ c = ')' then if dangling then none else some (change, c, cs)
    else if c = '-' then if negated then none else flagChange change true true cs
    else do
      let flag ← Flag.ofChar? c
      if change.on.contains flag || change.off.contains flag then none
      else if negated then flagChange { change with off := flag :: change.off } true false cs
      else flagChange { change with on := flag :: change.on } false false cs

/-- Whether a character may stand in the name of a group. -/
def isNameChar (first : Bool) (c : Char) : Bool :=
  if first then c == '_' || Unicode.alphabetic.contains c
  else c == '_' || c == '.' || c == '[' || c == ']' || Unicode.alphanumeric.contains c

/-- Reads the name of a group up to its closing angle. -/
def groupName (name : List Char) : List Char → Option (List Char × List Char)
  | [] => none
  | c :: cs =>
    if c = '>' then if name.isEmpty then none else some (name.reverse, cs)
    else if isNameChar name.isEmpty c then groupName (c :: name) cs
    else none

/-- What an opening bracket starts. -/
inductive GroupStart where
  /-- A group that sets switches for its inside. -/
  | plain (change : FlagChange)
  /-- A group with a name. -/
  | named (name : List Char)
  /-- No group, but switches for the rest of the group around it. -/
  | directive (change : FlagChange)

/-- Reads the start of a group after its opening bracket. -/
def groupStart (verbose : Bool) (cs : List Char) : Option (GroupStart × List Char) :=
  match skip verbose cs with
  | '?' :: '=' :: _ | '?' :: '!' :: _ | '?' :: '<' :: '=' :: _ | '?' :: '<' :: '!' :: _ => none
  | '?' :: 'P' :: '<' :: rest | '?' :: '<' :: rest =>
    (groupName [] rest).map fun (name, rest) => (.named name, rest)
  | '?' :: rest => do
    let (change, ending, after) ← flagChange {} false false rest
    if ending = ':' then some (.plain change, after)
    else if rest.head? = some ')' then none
    else some (.directive change, after)
  | rest => some (.plain {}, rest)

/-! ### Whole patterns -/

/-- A group around the one being read: what stands before it, and the mode to return to. -/
structure ParseFrame where
  change : FlagChange
  branches : List Ast
  items : List Ast
  verbose : Bool

/-- What has been read: the finished branches of the innermost group and the items of its last
branch (both last one first), the groups around it, the mode, the names of groups. -/
structure ParseState where
  branches : List Ast := []
  items : List Ast := []
  outer : List ParseFrame := []
  verbose : Bool := false
  names : List (List Char) := []

/-- Adds an item to the branch being read. -/
def ParseState.push (s : ParseState) (item : Ast) : ParseState :=
  { s with items := item :: s.items }

/-- What has been read of the innermost group. -/
def ParseState.body (s : ParseState) : Ast :=
  let last := Ast.ofItems s.items.reverse
  if s.branches.isEmpty then last else .alternation (last :: s.branches).reverse

/-- Repeats the item read last. -/
def ParseState.repeatLast (s : ParseState) (min : Nat) (max : Option Nat) : Option ParseState :=
  match s.items with
  | [] => none
  | item :: items =>
    if item.isRepeatable then some { s with items := .repetition item min max :: items } else none

/-- The mode after switches are set. -/
def FlagChange.verboseAfter (change : FlagChange) (verbose : Bool) : Bool :=
  if change.on.contains .verbose then true
  else if change.off.contains .verbose then false
  else verbose

/-- Starts a group. -/
def ParseState.openGroup (s : ParseState) (change : FlagChange) : ParseState :=
  { s with
    branches := []
    items := []
    outer := ⟨change, s.branches, s.items, s.verbose⟩ :: s.outer
    verbose := change.verboseAfter s.verbose }

/-- Ends the innermost group. -/
def ParseState.closeGroup (s : ParseState) : Option ParseState :=
  match s.outer with
  | [] => none
  | frame :: outer =>
    some { s with
      branches := frame.branches
      items := .group frame.change s.body :: frame.items
      outer
      verbose := frame.verbose }

/-- An item of a pattern from a character or escape. -/
def Primitive.toAst : Primitive → Ast
  | .literal l => .literal l
  | .dot => .dot
  | .assertion a => .assertion a
  | .perl negated cls => .perl negated cls
  | .property negated query => .property negated query

/-- Reads one construct, which starts with the character `c`. -/
def step (s : ParseState) (c : Char) (cs : List Char) : Option (ParseState × List Char) :=
  match c with
  | '(' =>
    match groupStart s.verbose cs with
    | none => none
    | some (.plain change, rest) => some (s.openGroup change, rest)
    | some (.named name, rest) =>
      if s.names.contains name then none
      else some ({ s with names := name :: s.names }.openGroup {}, rest)
    | some (.directive change, rest) =>
      some ({ s.push (.flags change) with verbose := change.verboseAfter s.verbose }, rest)
  | ')' => s.closeGroup.map (·, cs)
  | '|' => some ({ s with branches := .ofItems s.items.reverse :: s.branches, items := [] }, cs)
  | '[' => (bracketClass s.verbose cs).map fun (item, rest) => (s.push item, rest)
  | '?' => (s.repeatLast 0 (some 1)).map (·, skipReluctant cs)
  | '*' => (s.repeatLast 0 none).map (·, skipReluctant cs)
  | '+' => (s.repeatLast 1 none).map (·, skipReluctant cs)
  | '\x7b' => do
    let (min, max, rest) ← countedRange s.verbose cs
    return (← s.repeatLast min max, rest)
  | '\\' => (escape s.verbose cs).map fun (p, rest) => (s.push p.toAst, rest)
  | '.' => some (s.push .dot, cs)
  | '^' => some (s.push (.assertion .startLine), cs)
  | '$' => some (s.push (.assertion .endLine), cs)
  | c => some (s.push (.literal ⟨c, false⟩), cs)

/-- Reads constructs to the end of the text; `fuel` bounds their number. -/
def run : (fuel : Nat) → ParseState → List Char → Option ParseState
  | 0, _, _ => none
  | fuel + 1, s, cs =>
    match skip s.verbose cs with
    | [] => some s
    | c :: rest =>
      match step s c rest with
      | none => none
      | some (s, rest) => run fuel s rest

/-- Reads a pattern: its groups are closed and it is not nested too deeply. -/
def parse? (text : List Char) : Option Ast := do
  let s ← run (text.length + 1) {} text
  if s.outer.isEmpty ∧ s.body.depth ≤ depthLimit then some s.body else none

end VariantStrip.Pattern
