/-
Catalogs in files. The extension of a file tells its format.
-/
import VariantStrip.Catalog.Reading
import VariantStrip.Catalog.Writing

namespace VariantStrip

/-- The format that a path asks for. -/
def Format.require (p : Path) : Except LoadError Format :=
  match ofPath? p with
  | some format => .ok format
  | none => .error (.unknownFormat p)

namespace Catalog

/-- Loads a catalog, or `none` if there is no file. -/
def load (d : Disk) (p : Path) : Except LoadError (Option Catalog) := do
  let format ← Format.require p
  match d.read p with
  | .ok text => return some (← parse format text)
  | .error .notFound => return none
  | .error fault => throw (.file fault)

/-- Saves a catalog, with the folders above it. -/
def save (d : Disk) (p : Path) (c : Catalog) : Except LoadError Unit × Disk :=
  match Format.require p with
  | .error e => (.error e, d)
  | .ok format =>
    match d.writeInto p (c.write format) with
    | (.ok (), d) => (.ok (), d)
    | (.error fault, d) => (.error (.file fault), d)

end Catalog

end VariantStrip
