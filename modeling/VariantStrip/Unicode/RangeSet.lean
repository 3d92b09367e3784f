/-
Sets of characters as sorted ranges of code points.

* `RangeSet.contains` looks a character up by bisection,
* `RangeSet.decode` reads the written form of the tables in this folder,
* `NamedSet` is a set that is asked for by one of several names.
-/

namespace VariantStrip.Unicode

/-- A set of characters: disjoint inclusive ranges of code points, in ascending order. -/
structure RangeSet where
  ranges : Array (Nat × Nat)
  deriving Inhabited

/-- A set with the names it goes by; its members in the form that `RangeSet.decode` reads. -/
structure NamedSet where
  names : List String
  written : List String

namespace RangeSet

/-- Whether `n` is in one of the ranges with an index from `lo` to below `hi`, found by halving
the span at most `fuel` times. -/
def search (ranges : Array (Nat × Nat)) (n : Nat) : (fuel lo hi : Nat) → Bool
  | 0, _, _ => false
  | fuel + 1, lo, hi =>
    if lo < hi then
      match ranges[(lo + hi) / 2]? with
      | none => false
      | some (first, last) =>
        if n < first then search ranges n fuel lo ((lo + hi) / 2)
        else if last < n then search ranges n fuel ((lo + hi) / 2 + 1) hi
        else true
    else false

/-- Membership; a span of `2 ^ 21` ranges would exceed the code points, so the fuel suffices. -/
def contains (s : RangeSet) (c : Char) : Bool :=
  search s.ranges c.toNat 22 0 s.ranges.size

/-- The value of a hexadecimal digit. -/
def digitValue (c : Char) : Nat :=
  if '0' ≤ c ∧ c ≤ '9' then c.toNat - '0'.toNat
  else if 'a' ≤ c ∧ c ≤ 'f' then c.toNat - 'a'.toNat + 10
  else 0

/-- What `decode` has read so far: the ranges, the first code point after them, the numbers of
the range being read (`extent` once its plus sign was seen). -/
structure DecodeState where
  ranges : Array (Nat × Nat) := #[]
  next : Nat := 0
  gap : Option Nat := none
  extent : Option Nat := none

/-- Ends the range being read, if any. -/
def DecodeState.close (s : DecodeState) : DecodeState :=
  match s.gap with
  | none => s
  | some gap =>
    let first := s.next + gap
    let last := first + s.extent.getD 0
    { ranges := s.ranges.push (first, last), next := last + 1 }

/-- Reads one character of the written form. -/
def DecodeState.step (s : DecodeState) (c : Char) : DecodeState :=
  if c = ' ' then s.close
  else if c = '+' then { s with extent := some 0 }
  else match s.extent with
    | none => { s with gap := some (s.gap.getD 0 * 16 + digitValue c) }
    | some e => { s with extent := some (e * 16 + digitValue c) }

/-- Reads a table: each range is its distance from the end of the one before and, after a plus
sign, how far it extends beyond its first member; all in hexadecimal. -/
def decode (lines : List String) : RangeSet :=
  let readLine (s : DecodeState) (line : String) := (line.toList.foldl DecodeState.step s).close
  ⟨(lines.foldl readLine {}).ranges⟩

end RangeSet

/-- The members of a named set. -/
def NamedSet.set (s : NamedSet) : RangeSet := .decode s.written

end VariantStrip.Unicode
