/-
What settings, catalogs and manifests are read from.

A `Document` is a tree of values in some format. Data types are read from documents once, for all
formats: records by `Document.record?` and fields by `required` and `optional`.
-/
import VariantStrip.Spelled

namespace VariantStrip

/-- A tree of values that data can be read from. Each function is `none` on a tree that is not of
its shape. -/
class Document (δ : Type) where
  /-- A truth value. -/
  bool? : δ → Option Bool
  /-- A text. -/
  text? : δ → Option String
  /-- The items of a list. -/
  list? : δ → Option (List δ)
  /-- The items of a list where a text may stand as well. -/
  looseList? : δ → Option (List δ)
  /-- A value that may be missing. -/
  option? : δ → Option (Option δ)
  /-- The fields of a record, by its name and the names of its fields. Other fields are dropped;
  no field may stand twice. -/
  record? : (name : String) → (fields : List String) → δ → Option (List (String × δ))
  /-- The name of a choice, and what it carries. -/
  choice? : δ → Option (String × Option δ)
  /-- Whether what a choice carries stands for nothing. -/
  isNothing : δ → Bool

namespace Document

variable {δ : Type} [Document δ] {α : Type}

/-- Reads a field that has to be there. -/
def required (fields : List (String × δ)) (key : String) (read : δ → Option α) : Option α :=
  (fields.lookup key).bind read

/-- Reads a field that may be left out. -/
def optional (fields : List (String × δ)) (key : String) (default : α) (read : δ → Option α) :
    Option α :=
  match fields.lookup key with
  | none => some default
  | some d => read d

/-- Reads each item of a list. -/
def listOf (read : δ → Option α) (d : δ) : Option (List α) := (list? d).bind (·.mapM read)

/-- Reads the name of a choice that carries nothing. -/
def bareChoice? (d : δ) : Option String :=
  match choice? d with
  | some (name, none) => some name
  | some (name, some carried) => if isNothing carried then some name else none
  | none => none

/-- Reads a value of a type whose values have names. -/
def spelled? [Spelled α] (d : δ) : Option α := (bareChoice? d).bind Spelled.ofName?

end Document

end VariantStrip
