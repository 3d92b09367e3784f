/-
The formats of settings and catalogs.
-/
import VariantStrip.Path

namespace VariantStrip

/-- A text format. -/
inductive Format where
  | json
  | ron
  deriving DecidableEq, Repr

namespace Format

/-- The name shown to users. -/
def title : Format → String
  | json => "JSON"
  | ron => "Rusty Object Notation (RON)"

/-- The short name, in messages and requests. -/
def name : Format → String
  | json => "JSON"
  | ron => "RON"

/-- The format with an extension; the case of ASCII letters does not count. -/
def ofExtension? (extension : String) : Option Format :=
  match String.ofList (extension.toList.map Char.toLower) with
  | "ron" => some ron
  | "json" => some json
  | _ => none

/-- The format that a file is expected in. -/
def ofPath? (path : Path) : Option Format := path.extension?.bind ofExtension?

end Format

end VariantStrip
