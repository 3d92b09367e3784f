/-
JSON as a document.

A record is an object, or an array of its fields in order. A choice is a string, or an object with
one field; `null` stands for a missing value.
-/
import VariantStrip.Document
import VariantStrip.Json.Value

namespace VariantStrip.Json

/-- The fields of an object that a record knows. Every name has to be a text, and no known name
may stand twice. -/
def knownFields (known : List String) : List (Option String × Json) → Option (List (String × Json))
  | [] => some []
  | (none, _) :: _ => none
  | (some key, v) :: rest => do
    let fields ← knownFields known rest
    if known.contains key then
      if (fields.lookup key).isSome then none else some ((key, v) :: fields)
    else some fields

/-- The fields of a record. -/
def recordFields (known : List String) : Json → Option (List (String × Json))
  | .object fields => knownFields known fields
  | .array items => if items.length ≤ known.length then some (known.zip items) else none
  | _ => none

/-- The choice that a value stands for. -/
def choice? : Json → Option (String × Option Json)
  | .string (some name) => some (name, none)
  | .object [(some name, v)] => some (name, some v)
  | _ => none

/-- The items of an array. -/
def items? : Json → Option (List Json)
  | .array items => some items
  | _ => none

instance : Document Json where
  bool?
    | .bool b => some b
    | _ => none
  text?
    | .string s => s
    | _ => none
  list? := items?
  looseList? := items?
  option?
    | .null => some none
    | v => some (some v)
  record? _ known v := recordFields known v
  choice? := choice?
  isNothing
    | .null => true
    | _ => false

end VariantStrip.Json
