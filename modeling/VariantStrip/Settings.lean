/-
The settings of a build: its rules and what is reported about it.
-/
import VariantStrip.Rule.Basic

namespace VariantStrip

/-- The settings of a build. -/
structure Settings where
  rules : List Rule := []
  logIncluded : Bool := true
  logStripped : Bool := false
  processAlwaysIncluded : Bool := true
  logPath : Option Path := none
  deriving DecidableEq, Repr, Inhabited

/-- The rules that take part in a build. -/
def Settings.enabledRules (s : Settings) : List Rule := s.rules.filter (·.enabled)

end VariantStrip
