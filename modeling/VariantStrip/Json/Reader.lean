/-
Reading JSON.

`Json.parse?` reads a whole text by the strict grammar. Values may be nested to any depth; the
fuel of the recursive functions is the length of the text, which bounds the nesting and the number
of values.
-/
import VariantStrip.Json.Value
import VariantStrip.Text.Digit

namespace VariantStrip.Json

open Text

/-- The blank characters of JSON. -/
def isSpace (c : Char) : Bool := c == ' ' || c == '\n' || c == '\t' || c == '\r'

/-- Skips blank characters. -/
def skipSpace : List Char → List Char
  | [] => []
  | c :: cs => if isSpace c then skipSpace cs else c :: cs

/-! ### Numbers -/

/-- Reads digits, at least one. -/
def digits1 : List Char → Option (List Char)
  | c :: cs => if c.isDigit then some (cs.dropWhile Char.isDigit) else none
  | [] => none

/-- Reads the whole part of a number: a zero, or digits that do not start with one. -/
def wholePart : List Char → Option (List Char)
  | '0' :: cs => if (cs.head?.any Char.isDigit) then none else some cs
  | cs => digits1 cs

/-- Reads the fraction of a number, if there is one. -/
def fraction : List Char → Option (List Char)
  | '.' :: cs => digits1 cs
  | cs => some cs

/-- Reads the exponent of a number, if there is one. -/
def exponent : List Char → Option (List Char)
  | c :: cs =>
    if c = 'e' ∨ c = 'E' then
      match cs with
      | '+' :: cs => digits1 cs
      | '-' :: cs => digits1 cs
      | cs => digits1 cs
    else some (c :: cs)
  | [] => some []

/-- Reads a number, and returns what follows it. -/
def skipNumber (cs : List Char) : Option (List Char) := do
  let cs := match cs with
    | '-' :: cs => cs
    | cs => cs
  exponent (← fraction (← wholePart cs))

/-! ### Strings -/

/-- Reads four hexadecimal digits. -/
def hex4? : List Char → Option (Nat × List Char)
  | a :: b :: c :: d :: rest => do
    let a ← hexValue? a
    let b ← hexValue? b
    let c ← hexValue? c
    let d ← hexValue? d
    return (((a * 16 + b) * 16 + c) * 16 + d, rest)
  | _ => none

/-- A piece of a string: a character, or a unit of UTF-16 that an escape names. -/
inductive Unit16 where
  | char (c : Char)
  | unit (n : Nat)

/-- Reads the escape after a backslash. -/
def escape? : List Char → Option (Unit16 × List Char)
  | 'u' :: cs => (hex4? cs).map fun (n, rest) => (.unit n, rest)
  | '"' :: cs => some (.char '"', cs)
  | '\\' :: cs => some (.char '\\', cs)
  | '/' :: cs => some (.char '/', cs)
  | 'b' :: cs => some (.char '\x08', cs)
  | 'f' :: cs => some (.char '\x0c', cs)
  | 'n' :: cs => some (.char '\n', cs)
  | 'r' :: cs => some (.char '\r', cs)
  | 't' :: cs => some (.char '\t', cs)
  | _ => none

/-- Reads the pieces of a string after its opening quote; `fuel` bounds their number. -/
def stringUnits : (fuel : Nat) → List Char → Option (List Unit16 × List Char)
  | 0, _ => none
  | _ + 1, [] => none
  | fuel + 1, c :: cs =>
    if c = '"' then some ([], cs)
    else if c = '\\' then do
      let (u, cs) ← escape? cs
      let (us, cs) ← stringUnits fuel cs
      return (u :: us, cs)
    else if c.toNat < 0x20 then none
    else do
      let (us, cs) ← stringUnits fuel cs
      return (.char c :: us, cs)

/-- Whether a unit is the first half of a surrogate pair. -/
def isHighSurrogate (n : Nat) : Bool := 0xD800 ≤ n && n < 0xDC00

/-- Whether a unit is the second half of a surrogate pair. -/
def isLowSurrogate (n : Nat) : Bool := 0xDC00 ≤ n && n < 0xE000

/-- Joins the pieces of a string; a half of a pair without the other half is no text. -/
def joinUnits : List Unit16 → Option (List Char)
  | [] => some []
  | .char c :: us => (joinUnits us).map (c :: ·)
  | .unit n :: us =>
    if isHighSurrogate n then
      match us with
      | .unit m :: us =>
        if isLowSurrogate m then
          (joinUnits us).map (Char.ofNat (0x10000 + (n - 0xD800) * 0x400 + (m - 0xDC00)) :: ·)
        else none
      | _ => none
    else if isLowSurrogate n then none
    else (joinUnits us).map (Char.ofNat n :: ·)

/-- Reads a string after its opening quote. -/
def stringBody (cs : List Char) : Option (Option String × List Char) := do
  let (us, rest) ← stringUnits (cs.length + 1) cs
  return ((joinUnits us).map String.ofList, rest)

/-! ### Values -/

/-- Reads a word of the grammar. -/
def word? (word : String) (value : Json) (cs : List Char) : Option (Json × List Char) :=
  if word.toList.isPrefixOf cs then some (value, cs.drop word.length) else none

mutual

/-- Reads a value. -/
def value : (fuel : Nat) → List Char → Option (Json × List Char)
  | 0, _ => none
  | fuel + 1, cs =>
    match skipSpace cs with
    | [] => none
    | '"' :: rest => (stringBody rest).map fun (s, rest) => (.string s, rest)
    | '[' :: rest =>
      match skipSpace rest with
      | ']' :: rest => some (.array [], rest)
      | rest => (items fuel rest).map fun (vs, rest) => (.array vs, rest)
    | '\x7b' :: rest =>
      match skipSpace rest with
      | '\x7d' :: rest => some (.object [], rest)
      | rest => (fields fuel rest).map fun (fs, rest) => (.object fs, rest)
    | 'n' :: rest => word? "ull" .null rest
    | 't' :: rest => word? "rue" (.bool true) rest
    | 'f' :: rest => word? "alse" (.bool false) rest
    | cs => (skipNumber cs).map fun rest => (.number, rest)

/-- Reads the items of an array that is not empty. -/
def items : (fuel : Nat) → List Char → Option (List Json × List Char)
  | 0, _ => none
  | fuel + 1, cs => do
    let (v, rest) ← value fuel cs
    match skipSpace rest with
    | ',' :: rest => do
      let (vs, rest) ← items fuel rest
      return (v :: vs, rest)
    | ']' :: rest => return ([v], rest)
    | _ => none

/-- Reads the fields of an object that is not empty. -/
def fields : (fuel : Nat) → List Char → Option (List (Option String × Json) × List Char)
  | 0, _ => none
  | fuel + 1, cs =>
    match skipSpace cs with
    | '"' :: rest => do
      let (key, rest) ← stringBody rest
      match skipSpace rest with
      | ':' :: rest => do
        let (v, rest) ← value fuel rest
        match skipSpace rest with
        | ',' :: rest => do
          let (fs, rest) ← fields fuel rest
          return ((key, v) :: fs, rest)
        | '\x7d' :: rest => return ([(key, v)], rest)
        | _ => none
      | _ => none
    | _ => none

end

/-- Reads a text that holds one value and blank characters. -/
def parse? (text : List Char) : Option Json := do
  let (v, rest) ← value (2 * text.length + 2) text
  if (skipSpace rest).isEmpty then some v else none

end VariantStrip.Json
