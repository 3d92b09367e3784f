/-
Blank characters, and the words between them.

* `isBlank` holds of the characters with Unicode's property White_Space,
* `words` splits a text at runs of blank characters.
-/

namespace VariantStrip.Text

/-- Whether a character has Unicode's property White_Space. -/
def isBlank (c : Char) : Bool :=
  let n := c.toNat
  (9 ≤ n && n ≤ 13) || n == 0x20 || n == 0x85 || n == 0xA0 || n == 0x1680
    || (0x2000 ≤ n && n ≤ 0x200A) || n == 0x2028 || n == 0x2029 || n == 0x202F || n == 0x205F
    || n == 0x3000

/-- Adds a finished word, unless it is empty. -/
def addWord (word : List Char) (rest : List String) : List String :=
  if word.isEmpty then rest else String.ofList word :: rest

/-- The words of a text; `word` is the part of the current word that has been read. -/
def wordsFrom (word : List Char) : List Char → List String
  | [] => addWord word []
  | c :: cs => if isBlank c then addWord word (wordsFrom [] cs) else wordsFrom (word ++ [c]) cs

/-- The words of a text: its longest runs of characters that are not blank. -/
def words (s : String) : List String := wordsFrom [] s.toList

/-- Removes blank characters from the start. -/
def trimStart (cs : List Char) : List Char := cs.dropWhile isBlank

/-- Removes blank characters from both ends. -/
def trim (cs : List Char) : List Char := (trimStart (trimStart cs).reverse).reverse

end VariantStrip.Text
