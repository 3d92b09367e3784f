/-
Counting what became of the variants of a build.

A `Tally` has one entry for each pass, in the order in which the passes were first seen, with the
numbers and the signatures of the variants kept and stripped.
-/
import VariantStrip.Pass
import VariantStrip.StringSet

namespace VariantStrip

/-- What became of the variants of a pass. -/
structure PassTally where
  includeCount : Nat := 0
  stripCount : Nat := 0
  included : StringSet := .empty
  stripped : StringSet := .empty
  deriving DecidableEq, Inhabited

namespace PassTally

/-- Counts a variant with a signature. -/
def record (p : PassTally) (signature : String) (kept : Bool) : PassTally :=
  if kept then
    { p with includeCount := p.includeCount + 1, included := p.included.insert signature }
  else { p with stripCount := p.stripCount + 1, stripped := p.stripped.insert signature }

/-- Counts of two parts of a build together. -/
def merge (p q : PassTally) : PassTally where
  includeCount := p.includeCount + q.includeCount
  stripCount := p.stripCount + q.stripCount
  included := p.included.union q.included
  stripped := p.stripped.union q.stripped

end PassTally

/-- What passes are told apart by: shader, type and name. -/
def passKey (shader : String) (passType : PassType) (passName : String) : String :=
  s!"{shader}::{passType.title}::{passName}"

/-- The counts of a build. -/
structure Tally where
  entries : List (String × PassTally) := []
  included : Nat := 0
  stripped : Nat := 0
  /-- The time spent on decisions, in microseconds. -/
  stripTime : Nat := 0
  deriving DecidableEq, Inhabited

namespace Tally

/-- The position of the entry with a key; if there is none, one is added at the end. -/
def slot (t : Tally) (key : String) : Nat × Tally :=
  match t.entries.findIdx? fun e => e.1 == key with
  | some i => (i, t)
  | none => (t.entries.length, { t with entries := t.entries ++ [(key, {})] })

/-- Counts a variant with a signature in the entry at a position. -/
def record (t : Tally) (slot : Nat) (signature : String) (kept : Bool) : Tally :=
  { t with
    entries := t.entries.modify slot fun (key, p) => (key, p.record signature kept)
    included := if kept then t.included + 1 else t.included
    stripped := if kept then t.stripped else t.stripped + 1 }

/-- Adds time spent on decisions. -/
def addStripTime (t : Tally) (micros : Nat) : Tally :=
  { t with stripTime := t.stripTime + micros }

/-- Adds the counts of an entry to those under its key. -/
def mergeEntry (t : Tally) (entry : String × PassTally) : Tally :=
  let (i, t) := t.slot entry.1
  { t with entries := t.entries.modify i fun (key, p) => (key, p.merge entry.2) }

/-- The counts of two parts of a build together. -/
def merge (t u : Tally) : Tally :=
  { u.entries.foldl mergeEntry t with
    included := t.included + u.included
    stripped := t.stripped + u.stripped
    stripTime := t.stripTime + u.stripTime }

/-- The entry with a key. -/
def entry? (t : Tally) (key : String) : Option PassTally := t.entries.lookup key

/-- Whether no pass has been seen. -/
def isEmpty (t : Tally) : Bool := t.entries.isEmpty

end Tally

end VariantStrip
