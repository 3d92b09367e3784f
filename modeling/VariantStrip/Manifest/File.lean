/-
Manifests in files.
-/
import VariantStrip.Disk
import VariantStrip.Manifest.Text

namespace VariantStrip

/-- Why a manifest could not be read or written. -/
inductive ManifestError where
  /-- The file could not be read or written. -/
  | file (fault : DiskFault)
  /-- The text of a file is no manifest. -/
  | malformed (path : Path)
  deriving DecidableEq, Repr

/-- The words for a failure. -/
def ManifestError.message : ManifestError → String
  | file fault => fault.message
  | malformed path => s!"{path.text}: not the text of a manifest"

namespace Manifest

/-- Loads a manifest. -/
def load (d : Disk) (p : Path) : Except ManifestError Manifest :=
  match d.read p with
  | .error fault => .error (.file fault)
  | .ok text =>
    match parse? text with
    | some m => .ok m
    | none => .error (.malformed p)

/-- Saves a manifest into a folder that exists. -/
def save (m : Manifest) (d : Disk) (p : Path) : Except ManifestError Disk :=
  (d.write p m.write).mapError .file

end Manifest

end VariantStrip
