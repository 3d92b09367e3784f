/-
Writing JSON, one item a line.

Items are indented by two spaces a level; empty lists and records are written as two brackets.
-/
import VariantStrip.Tree

namespace VariantStrip.Json

/-- A hexadecimal digit. -/
def hexDigit (n : Nat) : Char := if n < 10 then Char.ofNat (48 + n) else Char.ofNat (87 + n)

/-- How a character is written in a string. -/
def escapeChar (c : Char) : List Char :=
  if c = '"' then ['\\', '"']
  else if c = '\\' then ['\\', '\\']
  else if c = '\x08' then ['\\', 'b']
  else if c = '\x0c' then ['\\', 'f']
  else if c = '\n' then ['\\', 'n']
  else if c = '\r' then ['\\', 'r']
  else if c = '\t' then ['\\', 't']
  else if c.toNat < 0x20 then
    ['\\', 'u', '0', '0', hexDigit (c.toNat / 16), hexDigit (c.toNat % 16)]
  else [c]

/-- How a text is written. -/
def quote (text : String) : List Char := '"' :: (text.toList.flatMap escapeChar ++ ['"'])

/-- The start of a line at a level. -/
def newLine (level : Nat) : List Char := '\n' :: List.replicate (2 * level) ' '

mutual

/-- Writes a tree that starts on a line of the given level. -/
def chars (level : Nat) : Tree → List Char
  | .nothing => "null".toList
  | .bool b => (if b then "true" else "false").toList
  | .nat n => (toString n).toList
  | .text s => quote s
  | .word s => quote s
  | .list [] => ['[', ']']
  | .list (v :: vs) =>
    '[' :: (newLine (level + 1) ++
      (chars (level + 1) v ++ (itemChars level vs ++ (newLine level ++ [']']))))
  | .record [] => ['\x7b', '\x7d']
  | .record ((key, v) :: fs) =>
    '\x7b' :: (newLine (level + 1) ++ (quote key ++ (':' :: ' ' :: (chars (level + 1) v
      ++ (fieldChars level fs ++ (newLine level ++ ['\x7d']))))))

/-- Writes the items of a list after the first. -/
def itemChars (level : Nat) : List Tree → List Char
  | [] => []
  | v :: vs => ',' :: (newLine (level + 1) ++ (chars (level + 1) v ++ itemChars level vs))

/-- Writes the fields of a record after the first. -/
def fieldChars (level : Nat) : List (String × Tree) → List Char
  | [] => []
  | (key, v) :: fs =>
    ',' :: (newLine (level + 1) ++ (quote key ++ (':' :: ' ' :: (chars (level + 1) v
      ++ fieldChars level fs))))

end

/-- The text of a tree. -/
def write (t : Tree) : String := String.ofList (chars 0 t)

end VariantStrip.Json
