/-
Loading catalogs.

What loading a catalog leads to depends on its extension and on what can be read of it: a file of an
unknown format fails, whether it exists or not (`Catalog.load_of_unknownFormat`), and otherwise one
that does not exist is passed over (`Catalog.load_of_fault`).  `Catalog.LoadFails` lists all ways to
fail, and `Catalog.load_eq_error_iff` says that there are no others.
-/
import VariantStrip.Catalog.File

namespace VariantStrip.Catalog

theorem load_of_unknownFormat {p : Path} (hformat : Format.ofPath? p = none) (d : Disk) :
    load d p = .error (.unknownFormat p) := by
  rw [load, Format.require, hformat]
  rfl

section

variable {d : Disk} {p : Path} {format : Format} (hformat : Format.ofPath? p = some format)

include hformat

theorem load_of_fault {fault : DiskFault} (hread : d.read p = .error fault) :
    load d p = if fault = .notFound then .ok none else .error (.file fault) := by
  rw [load, Format.require, hformat, hread]
  cases fault <;> rfl

theorem load_of_text {text : String} (hread : d.read p = .ok text) :
    load d p = (parse format text).map some := by
  rw [load, Format.require, hformat, hread]
  show (do return some (← parse format text)) = (parse format text).map some
  cases parse format text <;> rfl

theorem load_of_read {text : String} {c : Catalog} (hread : d.read p = .ok text)
    (hparse : parse format text = .ok c) : load d p = .ok (some c) := by
  rw [load_of_text hformat hread, hparse]
  rfl

end

/-! ### Failures -/

/-- A catalog fails to load: its extension belongs to no format, whether there is a file or not, the
file cannot be read although there is one, or its text is not that of a catalog. -/
inductive LoadFails (d : Disk) (p : Path) : LoadError → Prop
  | unknownFormat (hformat : Format.ofPath? p = none) : LoadFails d p (.unknownFormat p)
  | file {format : Format} {fault : DiskFault} (hformat : Format.ofPath? p = some format)
      (hread : d.read p = .error fault) (hfault : fault ≠ .notFound) : LoadFails d p (.file fault)
  | malformed {format : Format} {text : String} (hformat : Format.ofPath? p = some format)
      (hread : d.read p = .ok text) (htext : parse? format text = none) :
      LoadFails d p (.malformed format)

variable {d : Disk} {p : Path}

/-- **Why a catalog fails to load.** -/
theorem load_eq_error_iff {cause : LoadError} : load d p = .error cause ↔ LoadFails d p cause := by
  constructor
  · intro hload
    cases hformat : Format.ofPath? p with
    | none =>
      rw [load_of_unknownFormat hformat] at hload
      cases hload
      exact .unknownFormat hformat
    | some format =>
      cases hread : d.read p with
      | error fault =>
        rw [load_of_fault hformat hread] at hload
        split at hload
        · cases hload
        · next hfault =>
          cases hload
          exact .file hformat hread hfault
      | ok text =>
        rw [load_of_text hformat hread, parse] at hload
        cases htext : parse? format text with
        | none =>
          rw [htext] at hload
          cases hload
          exact .malformed hformat hread htext
        | some c =>
          rw [htext] at hload
          cases hload
  · intro hfails
    cases hfails with
    | unknownFormat hformat => exact load_of_unknownFormat hformat d
    | file hformat hread hfault => rw [load_of_fault hformat hread, if_neg hfault]
    | malformed hformat hread htext =>
      rw [load_of_text hformat hread, parse, htext]
      rfl

theorem loads_iff : (∃ found, load d p = .ok found) ↔ ∀ cause, ¬ LoadFails d p cause := by
  simp only [← load_eq_error_iff]
  cases load d p with
  | error cause => simp
  | ok found => simp

end VariantStrip.Catalog
