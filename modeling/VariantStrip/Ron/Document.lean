/-
RON as a document.

A record is written in round brackets, possibly after its name. A choice is a word, or a word with
one value in brackets. A document remembers how deeply it is nested, since a value that is not
looked at counts as well.
-/
import VariantStrip.Document
import VariantStrip.Ron.Value

namespace VariantStrip.Ron

/-- A value in a text: the extensions enabled there, and the levels of recursion around it. -/
structure Node where
  exts : Extensions
  level : Nat
  value : Ron

namespace Node

/-- A value inside another, some levels deeper. -/
def inner (d : Node) (levels : Nat) (v : Ron) : Node := ⟨d.exts, d.level + levels, v⟩

/-- The fields that a record knows. No known name may stand twice, and no other value may be
nested too deeply. -/
def knownFields (d : Node) (known : List String) :
    List (String × Ron) → Option (List (String × Node))
  | [] => some []
  | (key, v) :: rest => do
    let fields ← d.knownFields known rest
    if known.contains key then
      if (fields.lookup key).isSome then none else some ((key, d.inner 2 v) :: fields)
    else if d.level + 2 + v.depth ≤ depthLimit then some fields
    else none

/-- The fields of a record. -/
def record? (d : Node) (name : String) (known : List String) : Option (List (String × Node)) :=
  let named (found : Option String) := found.all (· == name)
  match d.value with
  | .unit => some []
  | .tuple found [] => if named found then some [] else none
  | .record found fields => if named found then d.knownFields known fields else none
  | _ => none

/-- The choice that a value stands for. -/
def choice? (d : Node) : Option (String × Option Node) :=
  match d.value with
  | .word name => some (name, none)
  | .tuple (some name) [v] =>
    if d.exts.unwrapVariantNewtypes then none else some (name, some (d.inner 1 v))
  | .tuple (some name) [] =>
    if d.exts.unwrapVariantNewtypes then some (name, some (d.inner 1 .unit)) else none
  | .record (some name) fields =>
    if d.exts.unwrapVariantNewtypes then some (name, some (d.inner 1 (.record none fields)))
    else none
  | _ => none

/-- A value that may be missing. -/
def option? (d : Node) : Option (Option Node) :=
  match d.value with
  | .word "None" => some none
  | .present v => some (some (d.inner 1 v))
  | _ => if d.exts.implicitSome then some (some d) else none

end Node

instance : Document Node where
  bool? d :=
    match d.value with
    | .bool b => some b
    | _ => none
  text? d :=
    match d.value with
    | .string s => some s
    | _ => none
  list? d :=
    match d.value with
    | .list items => some (items.map (d.inner 2))
    | _ => none
  looseList? d :=
    match d.value with
    | .list items => some (items.map (d.inner 2))
    | .tuple _ items => some (items.map (d.inner 2))
    | _ => none
  option? := Node.option?
  record? name known d := d.record? name known
  choice? := Node.choice?
  isNothing _ := false

end VariantStrip.Ron
