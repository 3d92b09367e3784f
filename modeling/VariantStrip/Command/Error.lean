/-
Why a command has failed.
-/
import VariantStrip.Error
import VariantStrip.Manifest.File
import VariantStrip.Overrides

namespace VariantStrip

/-- Why a command has failed. -/
inductive CommandError where
  /-- The report settings could not be read. -/
  | config (cause : ConfigError)
  /-- Settings or a catalog could not be read or written. -/
  | load (cause : LoadError)
  /-- The rules could not be applied. -/
  | strip (cause : StripError)
  /-- A manifest could not be read or written. -/
  | manifest (cause : ManifestError)
  /-- The folder of a summary could not be made. -/
  | summaryFolder (folder : Path) (fault : DiskFault)
  /-- A summary could not be written. -/
  | summaryFile (path : Path) (fault : DiskFault)
  deriving DecidableEq, Repr

namespace CommandError

/-- The words that come first in the message. -/
def heading : CommandError → String
  | config _ => "Configuration Error"
  | load _ => "Load Error"
  | strip _ => "Stripper Error"
  | manifest (.file _) => "IO Error"
  | manifest (.malformed _) => "Manifest Error"
  | summaryFolder .. => "Failed to create summary directory"
  | summaryFile .. => "Failed to create summary file"

/-- What the message goes on with. -/
def detail : CommandError → String
  | config cause => cause.message
  | load cause => cause.message
  | strip cause => cause.message
  | manifest cause => cause.message
  | summaryFolder folder fault => s!"{folder.text}: {fault.message}"
  | summaryFile path fault => s!"{path.text}: {fault.message}"

/-- The words for a failure. -/
def message (e : CommandError) : String := s!"{e.heading}: {e.detail}"

end CommandError

end VariantStrip
