/-
Values of JSON.
-/

namespace VariantStrip

/-- A value of JSON. A string is `none` if its escapes name half of a surrogate pair, so that it
is no text; it may stand where a value is not looked at. A number is only known to be one. -/
inductive Json where
  | null
  | bool (b : Bool)
  | number
  | string (text : Option String)
  | array (items : List Json)
  | object (fields : List (Option String × Json))
  deriving Inhabited

end VariantStrip
