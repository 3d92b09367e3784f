/-
Sets of characters built by set operations.

A `CharClass` keeps the operations it was built by, and `CharClass.contains` decides membership
by following them. So a class need never be written out as ranges.
-/
import VariantStrip.Unicode.RangeSet
import VariantStrip.Unicode.Fold

namespace VariantStrip.Unicode

/-- A set of characters. -/
inductive CharClass where
  /-- The characters from code point `first` to `last`. -/
  | span (first last : Nat)
  /-- The characters of a table. -/
  | table (s : RangeSet)
  | union (a b : CharClass)
  | inter (a b : CharClass)
  | diff (a b : CharClass)
  | symmDiff (a b : CharClass)
  | compl (a : CharClass)
  /-- The characters that equal a member when case is ignored. -/
  | folded (a : CharClass)
  /-- The same, for the letters of ASCII only. -/
  | foldedAscii (a : CharClass)
  deriving Inhabited

/-- The characters that equal `c` when the case of ASCII letters is ignored. -/
def asciiOrbit (c : Char) : List Char :=
  if 'a' ≤ c ∧ c ≤ 'z' then [c, Char.ofNat (c.toNat - 32)]
  else if 'A' ≤ c ∧ c ≤ 'Z' then [c, Char.ofNat (c.toNat + 32)]
  else [c]

namespace CharClass

/-- Membership. -/
def contains : CharClass → Char → Bool
  | span first last, c => first ≤ c.toNat && c.toNat ≤ last
  | table s, c => s.contains c
  | union a b, c => a.contains c || b.contains c
  | inter a b, c => a.contains c && b.contains c
  | diff a b, c => a.contains c && !b.contains c
  | symmDiff a b, c => a.contains c != b.contains c
  | compl a, c => !a.contains c
  | folded a, c => (caseOrbit c).any fun d => a.contains d
  | foldedAscii a, c => (asciiOrbit c).any fun d => a.contains d

/-- The class without members. -/
def none : CharClass := span 1 0

/-- The class of all characters. -/
def all : CharClass := span 0 0x10FFFF

/-- The characters of ASCII. -/
def ascii : CharClass := span 0 0x7F

/-- The class with one member. -/
def single (c : Char) : CharClass := span c.toNat c.toNat

/-- The members of any class of a list. -/
def unions (cs : List CharClass) : CharClass := cs.foldr union none

/-- The members of any table of a list. -/
def tables (ts : List RangeSet) : CharClass := unions (ts.map table)

@[simp] theorem contains_single (c d : Char) : (single c).contains d = true ↔ d = c := by
  simp only [single, contains, Bool.and_eq_true, decide_eq_true_eq]
  constructor
  · intro h
    exact Char.toNat_inj.mp (by omega)
  · rintro rfl
    omega

@[simp] theorem contains_compl (a : CharClass) (c : Char) :
    (compl a).contains c = !a.contains c := rfl

end CharClass

end VariantStrip.Unicode
