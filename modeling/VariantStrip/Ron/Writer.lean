/-
Writing RON, one item a line.

Items are indented by four spaces a level, each with a comma after it; records are written without
their names. A character that has no visible form of its own is written as an escape.
-/
import VariantStrip.Tree
import VariantStrip.Unicode.Lookup

namespace VariantStrip.Ron

/-- The hexadecimal digits of a code point, in front of `rest`; `fuel` bounds their number. -/
def hexDigits : (fuel n : Nat) → (rest : List Char) → List Char
  | 0, _, rest => rest
  | fuel + 1, n, rest =>
    let d := n % 16
    let c := if d < 10 then Char.ofNat (48 + d) else Char.ofNat (87 + d)
    if n < 16 then c :: rest else hexDigits fuel (n / 16) (c :: rest)

/-- How a character is written in a string. -/
def escapeChar (c : Char) : List Char :=
  if c = '\x00' then ['\\', '0']
  else if c = '\t' then ['\\', 't']
  else if c = '\r' then ['\\', 'r']
  else if c = '\n' then ['\\', 'n']
  else if c = '\'' ∨ c = '"' ∨ c = '\\' then ['\\', c]
  else if Unicode.graphemeExtend.contains c || !Unicode.isPrintable c then
    '\\' :: 'u' :: '\x7b' :: hexDigits 6 c.toNat ['\x7d']
  else [c]

/-- How a text is written. -/
def quote (text : String) : List Char := '"' :: (text.toList.flatMap escapeChar ++ ['"'])

/-- The start of a line at a level. -/
def newLine (level : Nat) : List Char := '\n' :: List.replicate (4 * level) ' '

mutual

/-- Writes a tree that starts on a line of the given level. -/
def chars (level : Nat) : Tree → List Char
  | .nothing => "None".toList
  | .bool b => (if b then "true" else "false").toList
  | .nat n => (toString n).toList
  | .text s => quote s
  | .word s => s.toList
  | .list [] => ['[', ']']
  | .list (v :: vs) =>
    '[' :: (newLine (level + 1) ++ (chars (level + 1) v ++ (itemChars level vs
      ++ (',' :: (newLine level ++ [']'])))))
  | .record [] => ['(', ')']
  | .record ((key, v) :: fs) =>
    '(' :: (newLine (level + 1) ++ (key.toList ++ (':' :: ' ' :: (chars (level + 1) v
      ++ (fieldChars level fs ++ (',' :: (newLine level ++ [')'])))))))

/-- Writes the items of a list after the first. -/
def itemChars (level : Nat) : List Tree → List Char
  | [] => []
  | v :: vs => ',' :: (newLine (level + 1) ++ (chars (level + 1) v ++ itemChars level vs))

/-- Writes the fields of a record after the first. -/
def fieldChars (level : Nat) : List (String × Tree) → List Char
  | [] => []
  | (key, v) :: fs =>
    ',' :: (newLine (level + 1) ++ (key.toList ++ (':' :: ' ' :: (chars (level + 1) v
      ++ fieldChars level fs))))

end

/-- The text of a tree. -/
def write (t : Tree) : String := String.ofList (chars 0 t)

end VariantStrip.Ron
