/-
Runs of a map between characters that keeps distances.

Case maps are mostly regular: whole alphabets are shifted by one distance, or every second
character is mapped to its neighbour. A `CaseRun` states one such stretch.
-/

namespace VariantStrip.Unicode

/-- Maps `first`, `first + stride`, … up to `last` to `image`, `image + stride`, …. -/
structure CaseRun where
  first : Nat
  last : Nat
  stride : Nat
  image : Nat

namespace CaseRun

/-- Where the run takes a code point. -/
def imageOf? (r : CaseRun) (n : Nat) : Option Nat :=
  if r.first ≤ n ∧ n ≤ r.last ∧ (n - r.first) % r.stride = 0 then some (r.image + (n - r.first))
  else none

/-- The code point that the run takes to `n`. -/
def preimageOf? (r : CaseRun) (n : Nat) : Option Nat :=
  if r.image ≤ n ∧ n ≤ r.image + (r.last - r.first) ∧ (n - r.image) % r.stride = 0 then
    some (r.first + (n - r.image))
  else none

end CaseRun

end VariantStrip.Unicode
