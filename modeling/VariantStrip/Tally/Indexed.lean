/-
Tallies with an index of their keys.

An `IndexedTally` finds the entry of a key without a search. Its operations are those of `Tally`,
but for the index that they keep up: they read positions from it, and a position that leads to no
entry is a fault, so that there is no result.
-/
import Std.Data.HashMap
import VariantStrip.Tally

namespace VariantStrip

/-- The counts of a build with an index of the keys, and the time at which counting began. -/
structure IndexedTally extends Tally where
  /-- The position of the entry with each key. -/
  index : Std.HashMap String Nat := {}
  started : Nat

namespace IndexedTally

/-- A new tally at some time. -/
def start (now : Nat) : IndexedTally where
  started := now

/-- Counting begins anew; nothing is left of what has been counted. -/
def reset (_ : IndexedTally) (now : Nat) : IndexedTally := start now

/-- The position of the entry with a key; if there is none, one is added at the end. -/
def slot (t : IndexedTally) (key : String) : Nat × IndexedTally :=
  match t.index[key]? with
  | some i => (i, t)
  | none =>
    (t.entries.length,
      { t with
        entries := t.entries ++ [(key, {})]
        index := t.index.insert key t.entries.length })

/-- Changes the counts of the entry at a position. -/
def change? (t : IndexedTally) (slot : Nat) (f : PassTally → PassTally) : Option IndexedTally :=
  if slot < t.entries.length then
    some { t with entries := t.entries.modify slot fun (key, p) => (key, f p) }
  else none

/-- Counts a variant with a signature in the entry at a position. -/
def record? (t : IndexedTally) (slot : Nat) (signature : String) (kept : Bool) :
    Option IndexedTally :=
  (t.change? slot fun p => p.record signature kept).map fun t =>
    { t with
      included := if kept then t.included + 1 else t.included
      stripped := if kept then t.stripped else t.stripped + 1 }

/-- Adds time spent on decisions. -/
def addStripTime (t : IndexedTally) (micros : Nat) : IndexedTally :=
  { t with stripTime := t.stripTime + micros }

/-- Adds the counts of an entry to those under its key. -/
def mergeEntry? (t : IndexedTally) (entry : String × PassTally) : Option IndexedTally :=
  let (i, t) := t.slot entry.1
  t.change? i fun p => p.merge entry.2

/-- The counts of two parts of a build together, as counted from the start of the first. -/
def merge? (t u : IndexedTally) : Option IndexedTally :=
  (u.entries.foldlM mergeEntry? t).map fun t =>
    { t with
      included := t.included + u.included
      stripped := t.stripped + u.stripped
      stripTime := t.stripTime + u.stripTime }

/-- The entry with a key. -/
def entry? (t : IndexedTally) (key : String) : Option PassTally := do
  let i ← t.index[key]?
  let (_, p) ← t.entries[i]?
  return p

end IndexedTally

end VariantStrip
