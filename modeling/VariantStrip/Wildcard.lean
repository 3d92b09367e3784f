/-
Wildcards: patterns in which a star stands for any run of characters and a question mark for one.

A wildcard is matched by the pattern that `patternText` writes for it, which is anchored at both
ends. The wildcard is quoted as a whole, so that every character stands for itself; then what the
quoted stars and question marks have become is replaced.
-/
import VariantStrip.Pattern.Parser

namespace VariantStrip.Wildcard

/-- A character, written so that a pattern takes it for itself. -/
def quoteChar (c : Char) : List Char := if Pattern.isMeta c then ['\\', c] else [c]

/-- A text, written so that a pattern takes each of its characters for itself. -/
def quote (text : List Char) : List Char := text.flatMap quoteChar

/-- Replaces as `replaceAll` does, once `pending` characters have been passed over. -/
def replaceAfter (old new : List Char) : (pending : Nat) → List Char → List Char
  | _, [] => []
  | pending + 1, _ :: cs => replaceAfter old new pending cs
  | 0, c :: cs =>
    if old.isPrefixOf (c :: cs) then new ++ replaceAfter old new (old.length - 1) cs
    else c :: replaceAfter old new 0 cs

/-- Puts `new` in the place of every `old`, from left to right. A place that has been replaced is
not looked at again. -/
def replaceAll (old new text : List Char) : List Char := replaceAfter old new 0 text

/-- The pattern that a wildcard stands for. -/
def patternChars (wildcard : List Char) : List Char :=
  let stars := replaceAll ['\\', '*'] ['.', '*'] (quote wildcard)
  '^' :: (replaceAll ['\\', '?'] ['.'] stars ++ ['$'])

/-- The text of the pattern that a wildcard stands for. -/
def patternText (wildcard : String) : String := String.ofList (patternChars wildcard.toList)

end VariantStrip.Wildcard
