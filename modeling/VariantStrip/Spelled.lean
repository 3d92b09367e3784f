/-
Types with finitely many values, each of which has a name in files and on the command line.
-/

namespace VariantStrip

/-- A type whose values have names. -/
class Spelled (α : Type) where
  /-- All values. -/
  values : List α
  /-- The name of a value. -/
  spell : α → String

namespace Spelled

variable {α : Type} [Spelled α]

/-- The value with a name. -/
def ofName? (name : String) : Option α := values.find? fun a => spell a == name

end Spelled

end VariantStrip
