/-
Variables of the environment as a layer of configuration.

The text of a variable can be a truth value, a number, a text in quotes as in TOML, a list or a
table; every other text stands for itself.

* `ConfigValue.ofText` reads a text,
* `Environment.layer` collects the variables whose names start in a common way.
-/
import VariantStrip.Config.Layer
import VariantStrip.Text.Blank
import VariantStrip.Text.Digit
import VariantStrip.Toml.Reader

namespace VariantStrip

open Text

namespace ConfigValue

/-- Whether a character is skipped around values. -/
def isSpace (c : Char) : Bool :=
  c == ' ' || c == '\t' || c == '\n' || c == '\x0c' || c == '\r'

/-- Skips blanks around values. -/
def skipSpace (cs : List Char) : List Char := cs.dropWhile isSpace

/-- Whether a character ends a text without quotes. -/
def isSeparator (c : Char) : Bool := ",\x7b\x7d[]".toList.contains c

/-- Whether a text is a whole number of 64 bits: up to the largest one without a sign of its own,
down to the least one with it. -/
def isWhole (cs : List Char) : Bool :=
  let digits := dropSign cs
  let limit := if cs.head? = some '-' then Nat.pow 2 63 + 1 else Nat.pow 2 64
  !digits.isEmpty && digits.all Char.isDigit && natOf digits < limit

/-- What a text without quotes stands for. Only a number with a point may have an exponent. -/
def ofBare (cs : List Char) : ConfigValue :=
  let cs := trim cs
  if (cs.contains '.' && isDecimal (dropSign cs)) || isWhole cs then .other
  else .text (String.ofList cs)

/-- Skips a key, the blanks around it and the sign of equality after it. -/
def skipKey? (cs : List Char) : Option (List Char) := do
  let cs := skipSpace cs
  let rest ← match cs with
    | '"' :: rest => (Toml.string? '"' cs.length rest).map (·.2)
    | cs => if cs.head?.any Toml.isKeyChar then some (cs.dropWhile Toml.isKeyChar) else none
  match skipSpace rest with
  | '=' :: rest => some rest
  | _ => none

mutual

/-- Reads a value and the blanks around it. -/
def value? : (fuel : Nat) → List Char → Option (ConfigValue × List Char)
  | 0, _ => none
  | fuel + 1, cs =>
    match skipSpace cs with
    | 't' :: 'r' :: 'u' :: 'e' :: rest => some (.bool true, skipSpace rest)
    | 'f' :: 'a' :: 'l' :: 's' :: 'e' :: rest => some (.bool false, skipSpace rest)
    | '\x7b' :: rest => (pairs? fuel rest).map fun rest => (.other, skipSpace rest)
    | '[' :: rest => (items? fuel rest).map fun rest => (.other, skipSpace rest)
    | '"' :: rest =>
      (Toml.string? '"' cs.length rest).map fun (s, rest) =>
        (.text (String.ofList s), skipSpace rest)
    | '\'' :: rest =>
      match rest with
      | c :: '\'' :: rest => some (.text c.toString, skipSpace rest)
      | _ => none
    | cs => some (ofBare (cs.takeWhile (!isSeparator ·)), cs.dropWhile (!isSeparator ·))

/-- Skips the items of a list and its closing bracket; a comma may follow the last one. -/
def items? : (fuel : Nat) → List Char → Option (List Char)
  | 0, _ => none
  | _ + 1, ']' :: rest => some rest
  | fuel + 1, cs => do
    let (_, rest) ← value? fuel cs
    match rest with
    | ',' :: rest => items? fuel rest
    | ']' :: rest => some rest
    | _ => none

/-- Skips the fields of a table and its closing brace; a comma may follow the last one. -/
def pairs? : (fuel : Nat) → List Char → Option (List Char)
  | 0, _ => none
  | _ + 1, '\x7d' :: rest => some rest
  | fuel + 1, cs => do
    let (_, rest) ← value? fuel (← skipKey? cs)
    match rest with
    | ',' :: rest => pairs? fuel rest
    | '\x7d' :: rest => some rest
    | _ => none

end

/-- What the text of a variable stands for. -/
def ofText (s : String) : ConfigValue :=
  let cs := s.toList
  if cs.all isBlank then .text s
  else
    match value? (2 * cs.length + 2) cs with
    | some (v, []) => v
    | _ => .text s

end ConfigValue

/-- The variables of the environment with their texts. -/
abbrev Environment := List (String × String)

namespace Environment

/-- The text of a variable. -/
def get? (e : Environment) (name : String) : Option String := e.lookup name

/-- The parts of a text between dots. -/
def splitDots (piece : List Char) : List Char → List (List Char)
  | [] => [piece.reverse]
  | c :: cs => if c = '.' then piece.reverse :: splitDots [] cs else splitDots (c :: piece) cs

/-- What a variable binds in a layer, if its name starts with `start`, in letters of either case.
A name with dots binds a table. -/
def binding? (start : String) (name value : String) : Option (String × ConfigValue) :=
  let lower (cs : List Char) : List Char := cs.map Char.toLower
  let name := trim name.toList
  if (lower start.toList).isPrefixOf (lower name) then
    let parts := splitDots [] (lower (trim (name.drop start.length)))
    if parts.any List.isEmpty then none
    else
      match parts with
      | [key] => some (String.ofList key, ConfigValue.ofText value)
      | key :: _ => some (String.ofList key, .other)
      | [] => none
  else none

/-- The layer of the variables whose names start with `start`. -/
def layer (start : String) (e : Environment) : ConfigLayer :=
  e.filterMap fun (name, value) => binding? start name value

end Environment

end VariantStrip
