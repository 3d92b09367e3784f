/-
Looking a class of characters up by name.

Names are compared loosely, as Unicode's rule LM3 asks: case, spaces, hyphens, underscores and an
initial `is` do not count. A name alone is a binary property, else a general category, else a
script; `name=value` also reaches script extensions, ages and the segmentation classes.
-/
import VariantStrip.Unicode.CharClass
import VariantStrip.Unicode.Category
import VariantStrip.Unicode.Script
import VariantStrip.Unicode.ScriptExtensions
import VariantStrip.Unicode.Age
import VariantStrip.Unicode.Segmentation
import VariantStrip.Unicode.Property

namespace VariantStrip.Unicode

/-- Drops what does not count in a name: characters outside ASCII, separators and case. -/
def looseChars (cs : List Char) : List Char :=
  (cs.filter fun c => c.toNat < 128 && c != ' ' && c != '_' && c != '-').map Char.toLower

/-- The form in which names are compared. A leading `is` is dropped, except from `isc`. -/
def looseName (name : List Char) : List Char :=
  match name with
  | i :: s :: rest =>
    if (i = 'i' ∨ i = 'I') ∧ (s = 's' ∨ s = 'S') then
      let rest := looseChars rest
      if rest = ['c'] then ['i', 's', 'c'] else rest
    else looseChars name
  | _ => looseChars name

/-- Whether one of `names` is the name sought, given in its compared form. -/
def namesInclude (names : List String) (key : List Char) : Bool :=
  names.any fun name => looseChars name.toList == key

/-- The set with a name, given in its compared form. -/
def findNamed (sets : List NamedSet) (key : List Char) : Option CharClass :=
  (sets.find? fun s => namesInclude s.names key).map fun s => .table s.set

namespace Category

/-- The characters of the categories whose abbreviation starts with one of the given letters. -/
def byFirstLetter (letter : Char) : CharClass :=
  .tables ((tables.filter fun t => t.1.toList.head? == some letter).map fun t => t.2.2)

/-- The characters that Unicode 15.0 assigns. -/
def assigned : CharClass := .tables (tables.map fun t => t.2.2)

/-- The names of the categories that are made of others. -/
def groupNames : List (List String × CharClass) := [
  (["C", "Other"],
    .union (.compl assigned) (.tables [control, format, privateUse])),
  (["Cn", "Unassigned"], .compl assigned),
  (["L", "Letter"], byFirstLetter 'L'),
  (["LC", "Cased_Letter"], .tables [uppercaseLetter, lowercaseLetter, titlecaseLetter]),
  (["M", "Mark", "Combining_Mark"], byFirstLetter 'M'),
  (["N", "Number"], byFirstLetter 'N'),
  (["P", "Punctuation", "Punct"], byFirstLetter 'P'),
  (["S", "Symbol"], byFirstLetter 'S'),
  (["Z", "Separator"], byFirstLetter 'Z'),
  (["Any"], .all),
  (["Assigned"], assigned),
  (["ASCII"], .ascii)]

/-- The category with a name, given in its compared form. -/
def find (key : List Char) : Option CharClass :=
  match tables.find? fun t => namesInclude (t.1 :: t.2.1) key with
  | some t => some (.table t.2.2)
  | none => (groupNames.find? fun g => namesInclude g.1 key).map (·.2)

end Category

/-- The characters that existed in a version of Unicode, its name given in its compared form. -/
def charactersOfAge (key : List Char) : Option CharClass :=
  let isAge (s : NamedSet) := namesInclude s.names key
  if ages.any isAge then
    let older := ages.takeWhile (!isAge ·)
    some (.tables ((older ++ ages.filter isAge).map NamedSet.set))
  else none

/-- The class that a single name stands for. The names `cf`, `sc` and `lc` are categories, though
properties go by them as well. -/
def classNamed (name : List Char) : Option CharClass :=
  let key := looseName name
  let property :=
    if key = ['c', 'f'] ∨ key = ['s', 'c'] ∨ key = ['l', 'c'] then none
    else findNamed properties key
  property <|> Category.find key <|> findNamed scripts key

/-- The class that a name and a value stand for. -/
def classValued (name value : List Char) : Option CharClass :=
  let name := looseName name
  let value := looseName value
  if namesInclude ["gc", "General_Category"] name then Category.find value
  else if namesInclude ["sc", "Script"] name then findNamed scripts value
  else if namesInclude ["scx", "Script_Extensions"] name then findNamed scriptExtensions value
  else if namesInclude ["age"] name then charactersOfAge value
  else if namesInclude ["GCB", "Grapheme_Cluster_Break"] name then findNamed graphemeBreaks value
  else if namesInclude ["WB", "Word_Break"] name then findNamed wordBreaks value
  else if namesInclude ["SB", "Sentence_Break"] name then findNamed sentenceBreaks value
  else none

/-- The table of a binary property, empty if there is none of that name. -/
def propertyTable (name : String) : RangeSet :=
  match properties.find? fun s => s.names.contains name with
  | some s => s.set
  | none => ⟨#[]⟩

/-- The characters with property Alphabetic. -/
def alphabetic : RangeSet := propertyTable "Alphabetic"

/-- The characters with property White_Space. -/
def whiteSpace : RangeSet := propertyTable "White_Space"

/-- The characters with property Grapheme_Extend. -/
def graphemeExtend : RangeSet := propertyTable "Grapheme_Extend"

/-- The characters that words are made of. -/
def wordCharacters : CharClass :=
  .tables [alphabetic, Category.nonspacingMark, Category.enclosingMark, Category.spacingMark,
    Category.decimalNumber, Category.connectorPunctuation, propertyTable "Join_Control"]

/-- The letters and the numbers of any kind. -/
def alphanumeric : CharClass :=
  .tables [alphabetic, Category.decimalNumber, Category.letterNumber, Category.otherNumber]

/-- Whether a character has a visible form: it is assigned, and neither a control character nor a
separator other than the space. -/
def isPrintable (c : Char) : Bool :=
  c == ' ' ||
    (Category.assigned.contains c
      && !(CharClass.tables [Category.control, Category.format, Category.privateUse,
        Category.lineSeparator, Category.paragraphSeparator,
        Category.spaceSeparator]).contains c)

end VariantStrip.Unicode
