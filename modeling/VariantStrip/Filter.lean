/-
Filters on names and keywords, as they are configured.
-/
import VariantStrip.Spelled

namespace VariantStrip

/-- How the pattern of a filter is compared. -/
inductive MatchType where
  | equals
  | contains
  | startsWith
  | endsWith
  | wildcard
  | regex
  deriving DecidableEq, Repr

/-- The name in files. -/
def MatchType.name : MatchType → String
  | equals => "Equals"
  | contains => "Contains"
  | startsWith => "StartsWith"
  | endsWith => "EndsWith"
  | wildcard => "Wildcard"
  | regex => "Regex"

instance : Spelled MatchType where
  values := [.equals, .contains, .startsWith, .endsWith, .wildcard, .regex]
  spell := MatchType.name

/-- A filter on texts. Unless configured otherwise it is a wildcard that accepts everything. -/
structure StringFilter where
  matchType : MatchType := .wildcard
  pattern : String := "*"
  ignoreCase : Bool := false
  deriving DecidableEq, Repr, Inhabited

end VariantStrip
