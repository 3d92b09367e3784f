/-
What can go wrong while rules, catalogs and settings are read or applied.
-/
import VariantStrip.Disk
import VariantStrip.Format
import VariantStrip.Rule.Kind

namespace VariantStrip

/-- Why settings or a catalog could not be read or written. -/
inductive LoadError where
  /-- A file could not be read or written. -/
  | file (fault : DiskFault)
  /-- A text is not in its format, or not of the shape asked for. -/
  | malformed (format : Format)
  /-- A second rule of a kind that may stand in a list once. -/
  | duplicateRule (kind : RuleKind)
  /-- A rule beside one that excludes it. -/
  | exclusiveRule (kind present : RuleKind)
  /-- The extension of a file belongs to no format. -/
  | unknownFormat (path : Path)
  deriving DecidableEq, Repr

/-- Why rules could not be applied. -/
inductive StripError where
  /-- The pattern of a filter is malformed or too large. -/
  | invalidPattern (pattern : String)
  /-- A rule was asked before it was initialized. -/
  | notInitialized (kind : RuleKind)
  /-- The host could not answer. -/
  | host (reason : String)
  /-- A catalog could not be loaded. -/
  | catalog (cause : LoadError)
  /-- A report could not be written. -/
  | report (fault : DiskFault)
  deriving DecidableEq, Repr

/-- The words for a failure. -/
def LoadError.message : LoadError → String
  | file fault => s!"I/O error reading file: {fault.message}"
  | malformed format => s!"{format.name} deserialization failed"
  | duplicateRule kind => s!"Rule '{kind.title}' can only be added once"
  | exclusiveRule kind present =>
    s!"Rule '{kind.title}' cannot be combined with '{present.title}'"
  | unknownFormat path => s!"Unsupported file format: {path.text}"

/-- The words for a failure. -/
def StripError.message : StripError → String
  | invalidPattern pattern => s!"Invalid match pattern '{pattern}'"
  | notInitialized kind => s!"Rule '{kind.title}' was used before it was initialized"
  | host reason => s!"Host error: {reason}"
  | catalog cause => s!"Catalog error: {cause.message}"
  | report fault => s!"Report I/O error: {fault.message}"

end VariantStrip
