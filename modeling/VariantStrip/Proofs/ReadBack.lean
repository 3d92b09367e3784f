/-
Reading back what has been written.

Types are written as trees and read from documents, in any format.  A format reads some document
for each tree that it writes, and such documents answer what readers ask for alike
(`Document.Presents`).  So that a type is read back (`Document.ReadsBack`) is shown once for all
formats, from the same for the types of its fields:

* `Document.ReadsBack.listOf` — a list is read back if its items are,
* `Document.readsBack_spelled` — a name is read back if it names one value.
-/
import Mathlib.Data.List.Basic
import VariantStrip.Document
import VariantStrip.Pass
import VariantStrip.Tree

namespace VariantStrip

/-- Other values do not change which keys a table has. -/
theorem lookup_map_eq_none {α β : Type} {fs : List (String × α)} {key : String}
    (h : key ∉ fs.map (·.1)) (g : α → β) : (fs.map fun f => (f.1, g f.2)).lookup key = none := by
  rw [List.lookup_eq_none_iff, List.forall_mem_map]
  exact fun f hf => bne_iff_ne.mpr fun heq => h (heq ▸ List.mem_map_of_mem hf)

/-- A text is no longer than its escaped form. -/
theorem length_le_length_flatMap {α β : Type} {f : α → List β} (hf : ∀ a, f a ≠ []) (as : List α) :
    as.length ≤ (as.flatMap f).length := by
  induction as with
  | nil => exact Nat.le_refl _
  | cons a as ih =>
    have hone : 0 < (f a).length := List.length_pos_iff.mpr (hf a)
    rw [List.flatMap_cons, List.length_append, List.length_cons]
    omega

/-- What a tree holds is smaller than the tree. -/
theorem Tree.sizeOf_lt_of_mem_fields {f : String × Tree} {fs : List (String × Tree)} (hf : f ∈ fs) :
    sizeOf f.2 < 1 + sizeOf fs := by
  have hmem := List.sizeOf_lt_of_mem hf
  have hvalue : sizeOf f = 1 + sizeOf f.1 + sizeOf f.2 := Prod.mk.sizeOf_spec ..
  omega

namespace Document

/-- Documents that trees are read as.  Readers go down into lists and records, and the level
counts how far they are. -/
class Presents (δ : Type) [Document δ] where
  /-- The document that a tree is read as. -/
  ofTree : (level : Nat) → Tree → δ
  bool?_ofTree (level : Nat) (b : Bool) : bool? (ofTree level (.bool b)) = some b
  text?_ofTree (level : Nat) (s : String) : text? (ofTree level (.text s)) = some s
  choice?_ofTree (level : Nat) (s : String) : choice? (ofTree level (.word s)) = some (s, none)
  list?_ofTree (level : Nat) (ts : List Tree) :
    list? (ofTree level (.list ts)) = some (ts.map (ofTree (level + 2)))
  looseList?_ofTree (level : Nat) (ts : List Tree) :
    looseList? (ofTree level (.list ts)) = some (ts.map (ofTree (level + 2)))
  record?_of_known (level : Nat) (name : String) {known : List String} {fs : List (String × Tree)}
    (hknown : ∀ f ∈ fs, f.1 ∈ known) (hnodup : (fs.map (·.1)).Nodup) :
    record? name known (ofTree level (.record fs)) =
      some (fs.map fun f => (f.1, ofTree (level + 2) f.2))

/-- **Records.**  The fields that have been written are found. -/
theorem Presents.record?_ofTree {δ : Type} [Document δ] [Presents δ] (level : Nat) (name : String)
    {known : List String} {fs : List (String × Tree)} (hkeys : (fs.map (·.1)).Sublist known)
    (hnodup : known.Nodup) :
    record? name known (ofTree level (.record fs) : δ) =
      some (fs.map fun f => (f.1, ofTree (level + 2) f.2)) :=
  record?_of_known level name (fun _ hf => hkeys.subset (List.mem_map_of_mem hf))
    (hnodup.sublist hkeys)

section

variable (δ : Type) [Document δ] [Presents δ] {α : Type}

/-- What is read of the tree of a value is that value. -/
def ReadsBack (read : δ → Option α) (tree : α → Tree) : Prop :=
  ∀ level a, read (Presents.ofTree level (tree a)) = some a

theorem readsBack_text : ReadsBack δ text? .text := Presents.text?_ofTree

theorem readsBack_bool : ReadsBack δ bool? .bool := Presents.bool?_ofTree

theorem readsBack_spelled [Spelled α]
    (hnames : ∀ a : α, Spelled.ofName? (Spelled.spell a) = some a) :
    ReadsBack δ spelled? fun a : α => .word (Spelled.spell a) := by
  intro level a
  rw [spelled?, bareChoice?, Presents.choice?_ofTree]
  exact hnames a

variable {δ} {read : δ → Option α} {tree : α → Tree}

/-- Items are read back one by one. -/
theorem mapM_ofTree {level : Nat} {as : List α}
    (has : ∀ a ∈ as, read (Presents.ofTree level (tree a)) = some a) :
    ((as.map tree).map (Presents.ofTree level)).mapM read = some as := by
  induction as with
  | nil => rfl
  | cons a as ih =>
    rw [List.forall_mem_cons] at has
    rw [List.map_cons, List.map_cons, List.mapM_cons, has.1, ih has.2]
    rfl

theorem listOf_ofTree {level : Nat} {as : List α}
    (has : ∀ a ∈ as, read (Presents.ofTree (level + 2) (tree a)) = some a) :
    Document.listOf read (Presents.ofTree level (.list (as.map tree))) = some as := by
  rw [Document.listOf, Presents.list?_ofTree, Option.bind_some, mapM_ofTree has]

theorem ReadsBack.listOf (h : ReadsBack δ read tree) :
    ReadsBack δ (Document.listOf read) fun as => .list (as.map tree) :=
  fun level _ => listOf_ofTree fun a _ => h (level + 2) a

end

end Document

theorem PassType.readsBack (δ : Type) [Document δ] [Document.Presents δ] :
    Document.ReadsBack δ Document.spelled? fun t : PassType => .word t.name :=
  Document.readsBack_spelled δ fun t => by cases t <;> decide

end VariantStrip
