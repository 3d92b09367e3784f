/-
Filters made ready for matching.

* `Matcher.ofFilter` compiles the pattern of a filter, or says which pattern is malformed,
* `Matcher.accepts` tests a text,
* `accepts` does both for a text that may be missing.

Plain comparisons ignore case character by character, by the uppercase form of each character
(`foldCase`); patterns ignore it by the case orbits of characters.
-/
import VariantStrip.Error
import VariantStrip.Filter
import VariantStrip.Pattern.Basic
import VariantStrip.Unicode.Upper
import VariantStrip.Wildcard

namespace VariantStrip

variable [Pattern.Capacity]

/-- How two texts are compared character by character. -/
inductive Comparison where
  | equals
  | contains
  | startsWith
  | endsWith
  deriving DecidableEq, Repr

/-- Whether `pattern` stands at some place in `text`. -/
def occursIn (pattern : List Char) : List Char → Bool
  | [] => pattern.isEmpty
  | c :: cs => pattern.isPrefixOf (c :: cs) || occursIn pattern cs

/-- Whether a text compares as asked with a pattern. -/
def Comparison.holds (pattern text : List Char) : Comparison → Bool
  | equals => text == pattern
  | contains => occursIn pattern text
  | startsWith => pattern.isPrefixOf text
  | endsWith => pattern.isSuffixOf text

/-- The form in which characters are compared when case is ignored. -/
def foldCase (ignoreCase : Bool) (text : List Char) : List Char :=
  if ignoreCase then text.map Unicode.simpleUpper else text

/-- A filter that is ready to be matched. -/
inductive Matcher where
  /-- A comparison with a pattern that has been folded. -/
  | plain (how : Comparison) (ignoreCase : Bool) (pattern : List Char)
  /-- A pattern to be found. -/
  | compiled (p : Pattern)

namespace Matcher

/-- Compiles a text as a pattern; a failure names the pattern as it was configured. -/
def compile (configured : String) (ignoreCase : Bool) (text : List Char) :
    Except StripError Matcher :=
  match Pattern.compile? ignoreCase text with
  | some p => .ok (compiled p)
  | none => .error (.invalidPattern configured)

/-- Makes a filter ready. -/
def ofFilter (f : StringFilter) : Except StripError Matcher :=
  let plainly (how : Comparison) := plain how f.ignoreCase (foldCase f.ignoreCase f.pattern.toList)
  match f.matchType with
  | .equals => .ok (plainly .equals)
  | .contains => .ok (plainly .contains)
  | .startsWith => .ok (plainly .startsWith)
  | .endsWith => .ok (plainly .endsWith)
  | .wildcard => compile f.pattern f.ignoreCase (Wildcard.patternChars f.pattern.toList)
  | .regex => compile f.pattern f.ignoreCase f.pattern.toList

/-- Whether a text passes. -/
def accepts (m : Matcher) (text : String) : Bool :=
  match m with
  | plain how ignoreCase pattern => how.holds pattern (foldCase ignoreCase text.toList)
  | compiled p => p.isMatch text

/-- Makes each filter of a list ready; the first malformed one is the failure. -/
def ofFilters (fs : List StringFilter) : Except StripError (List Matcher) := fs.mapM ofFilter

/-- Whether a text passes some filter of a list. -/
def anyAccepts (ms : List Matcher) (text : String) : Bool := ms.any (·.accepts text)

end Matcher

/-- Whether a text passes a filter. A missing text passes none, and the filter is not looked at. -/
def StringFilter.accepts (f : StringFilter) : Option String → Except StripError Bool
  | none => .ok false
  | some text => (Matcher.ofFilter f).map (·.accepts text)

end VariantStrip
