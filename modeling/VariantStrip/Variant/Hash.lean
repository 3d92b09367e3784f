/-
Hashing variants.

What tells variants apart goes into a hash piece by piece: the handle of the shader, the type of the
pass, and the keywords with their number in front. A set of variants looks for a variant among those
with its hash only.
-/
import Std.Data.HashSet
import VariantStrip.Variant

namespace VariantStrip

/-- A piece of what is hashed. -/
inductive HashPiece where
  | handle (index : Nat)
  /-- The place of a value among those of its type. -/
  | choice (place : Nat)
  /-- How many texts follow. -/
  | count (n : Nat)
  | text (s : String)

/-- A way to hash: a state that takes one piece after the other, and the number that it stands for
in the end. -/
structure Hasher where
  State : Type
  start : State
  take : State → HashPiece → State
  finish : State → UInt64

namespace Variant

/-- The pieces of a variant. -/
def hashPieces (v : Variant) : List HashPiece :=
  .handle v.shader.index :: .choice ((Spelled.values : List PassType).idxOf v.passType) ::
    .count v.keywords.size :: v.keywords.toList.map .text

/-- The hash of a variant. -/
def hash (H : Hasher) (v : Variant) : UInt64 := H.finish (v.hashPieces.foldl H.take H.start)

instance : BEq Variant := ⟨same⟩

end Variant

namespace Hasher

/-- Variants with their hashes. -/
abbrev hashable (H : Hasher) : Hashable Variant := ⟨Variant.hash H⟩

/-- The set of the variants of a list, by their hashes. -/
def setOf (H : Hasher) (vs : List Variant) : @Std.HashSet Variant _ H.hashable :=
  letI := H.hashable
  vs.foldl (fun s v => s.insert v) ∅

end Hasher

end VariantStrip
