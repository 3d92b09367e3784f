/-
What is written to files: trees of values, whatever the format.
-/

namespace VariantStrip

/-- A tree of values. A word is one of the names that a format knows, a text is any. -/
inductive Tree where
  | nothing
  | bool (b : Bool)
  | nat (n : Nat)
  | text (s : String)
  | word (s : String)
  | list (items : List Tree)
  | record (fields : List (String × Tree))
  deriving Inhabited

end VariantStrip
