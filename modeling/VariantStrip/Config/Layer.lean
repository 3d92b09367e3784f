/-
Layers of configuration.

A layer binds keys to values. Layers are put on top of each other by appending them: the last
binding of a key counts.
-/
import VariantStrip.Toml.Value

namespace VariantStrip

/-- A value in a layer. Of numbers, lists and tables it is only known that they are neither a truth
value nor a text. -/
inductive ConfigValue where
  | bool (b : Bool)
  | text (s : String)
  | other
  deriving DecidableEq, Repr

/-- The bindings of keys, the ones that count last. -/
abbrev ConfigLayer := List (String × ConfigValue)

namespace ConfigLayer

/-- The value of a key. -/
def get? (l : ConfigLayer) (key : String) : Option ConfigValue := l.reverse.lookup key

@[simp] theorem get?_nil (key : String) : get? [] key = none := rfl

/-- Of two layers, the upper one counts where it binds a key. -/
theorem get?_append (lower upper : ConfigLayer) (key : String) :
    get? (lower ++ upper) key = (get? upper key).or (get? lower key) := by
  simp [get?, List.lookup_append]

end ConfigLayer

/-- The value of a layer that a value of a document stands for. -/
def Toml.configValue : Toml → ConfigValue
  | .bool b => .bool b
  | .text s => .text s
  | _ => .other

/-- The layer of a document. -/
def TomlTable.layer (t : TomlTable) : ConfigLayer :=
  t.map fun (key, value) => (key, value.configValue)

end VariantStrip
