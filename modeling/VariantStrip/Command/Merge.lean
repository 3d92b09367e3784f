/-
Merging catalogs.
-/
import VariantStrip.Catalog.File
import VariantStrip.Catalog.Merge
import VariantStrip.Command.Basic
import VariantStrip.Command.Error

namespace VariantStrip.MergeOptions

/-- Loads catalogs in order; those that do not exist are passed over. -/
def loadInputs (d : Disk) : List Path → Except LoadError (List Catalog)
  | [] => return []
  | p :: ps => do
    let c ← Catalog.load d p
    return c.toList ++ (← loadInputs d ps)

/-- Reads the manifest and the catalogs; of several failures the first one counts. -/
def read (o : MergeOptions) (d : Disk) : Except CommandError (Host × List Catalog) := do
  let manifest ← (Manifest.load d o.manifest).mapError .manifest
  let catalogs ← (loadInputs d o.inputs).mapError .load
  return (manifest.host, catalogs)

/-- Everything up to the point where the merged catalog is written. It is checked against the
shaders of the manifest. -/
def compute (o : MergeOptions) (d : Disk) : Logged (Except CommandError Catalog) :=
  match o.read d with
  | .error failure => pure (.error failure)
  | .ok (host, catalogs) => do return .ok (← Catalog.merge host catalogs)

/-- Writes a merged catalog. The answer is the number of its variants. -/
def finish (o : MergeOptions) (merged : Catalog) (d : Disk) : Except CommandError Nat × Disk :=
  match Catalog.save d o.output merged with
  | (.error cause, d) => (.error (.load cause), d)
  | (.ok (), d) => (.ok merged.variantCount, d)

/-- Merges catalogs. -/
def run (o : MergeOptions) (d : Disk) : Logged (Except CommandError Nat × Disk) := do
  match ← o.compute d with
  | .error failure => return (.error failure, d)
  | .ok merged => return o.finish merged d

end VariantStrip.MergeOptions
