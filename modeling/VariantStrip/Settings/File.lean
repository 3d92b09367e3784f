/-
Settings in files. The extension of a file tells its format.
-/
import VariantStrip.Catalog.File
import VariantStrip.Settings.Reading

namespace VariantStrip.Settings

/-- Loads settings whose rules may stand together. -/
def load (d : Disk) (p : Path) : Except LoadError Settings := do
  let format ← Format.require p
  match d.read p with
  | .ok text => parse format text
  | .error fault => throw (.file fault)

end VariantStrip.Settings
