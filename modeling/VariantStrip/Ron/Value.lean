/-
Values of RON, Rusty Object Notation.
-/

namespace VariantStrip

/-- A value of RON. Numbers and characters are only known to be such. -/
inductive Ron where
  | bool (b : Bool)
  | number
  | character
  | string (text : String)
  /-- Two brackets with nothing between them. -/
  | unit
  /-- A word on its own. -/
  | word (name : String)
  /-- A value marked as present where one is optional. -/
  | present (value : Ron)
  /-- Values in brackets, possibly after a word. -/
  | tuple (name : Option String) (items : List Ron)
  /-- Fields in brackets, possibly after a word. -/
  | record (name : Option String) (fields : List (String × Ron))
  | list (items : List Ron)
  | map (entries : List (Ron × Ron))
  deriving Inhabited

namespace Ron

/-- The extensions that a text can ask for. -/
structure Extensions where
  /-- A value may stand for itself where one is optional. -/
  implicitSome : Bool := false
  /-- The fields of a choice stand directly in its brackets. -/
  unwrapVariantNewtypes : Bool := false
  deriving DecidableEq, Repr

mutual

/-- How many levels of recursion reading a value takes: one for a group, and one more for each of
its members. -/
def depth : Ron → Nat
  | .bool _ | .number | .character | .string _ | .unit | .word _ => 0
  | .present v => v.depth + 1
  | .tuple _ items => depthOfItems items + 1
  | .record _ fields => depthOfFields fields + 1
  | .list items => depthOfItems items + 1
  | .map entries => depthOfEntries entries + 1

/-- The levels of the deepest item. -/
def depthOfItems : List Ron → Nat
  | [] => 0
  | v :: vs => max (v.depth + 1) (depthOfItems vs)

/-- The levels of the deepest field. -/
def depthOfFields : List (String × Ron) → Nat
  | [] => 0
  | (_, v) :: fs => max (v.depth + 1) (depthOfFields fs)

/-- The levels of the deepest entry. -/
def depthOfEntries : List (Ron × Ron) → Nat
  | [] => 0
  | (k, v) :: es => max (max (k.depth + 1) (v.depth + 1)) (depthOfEntries es)

end

/-- How many levels of recursion a text may take. -/
def depthLimit : Nat := 128

end Ron

end VariantStrip
