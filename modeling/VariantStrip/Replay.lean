/-
Showing the passes of a recorded build to a stripper.

The passes are processed one after the other, or cut into parts that are counted on their own.
`Stripper.replay` does either. Parts keep the order of the passes, and counts are merged from left
to right, so it does not matter where the passes are cut.
-/
import VariantStrip.Manifest.Basic
import VariantStrip.Stripper

namespace VariantStrip

/-- Work that has been cut into parts. -/
inductive Shards where
  | part (items : List PassWork)
  | join (left right : Shards)

namespace Shards

/-- The work of all parts, in order. -/
def items : Shards → List PassWork
  | part items => items
  | join left right => left.items ++ right.items

/-- Cuts work into halves, these into halves again, and so on. -/
def halve : (depth : Nat) → List PassWork → Shards
  | 0, work => part work
  | depth + 1, work =>
    if work.length < 2 then part work
    else
      join (halve depth (work.take (work.length / 2))) (halve depth (work.drop (work.length / 2)))

@[simp] theorem items_halve (depth : Nat) (work : List PassWork) :
    (halve depth work).items = work := by
  induction depth generalizing work with
  | zero => rfl
  | succ depth ih =>
    unfold halve
    split
    · rfl
    · simp [items, ih]

end Shards

/-- A way to cut work into parts for a number of jobs. No work gets lost or changes its place. -/
structure Sharding where
  cut : (jobs : Nat) → List PassWork → Shards
  items_cut : ∀ jobs work, (cut jobs work).items = work

/-- Cuts work into halves until there is a part for each job. -/
def Sharding.byHalves : Sharding where
  cut jobs work := .halve (jobs.log2 + 1) work
  items_cut _ work := Shards.items_halve _ work

namespace Engine

/-- Processes passes in order and counts their variants. -/
def processWork (e : Engine) (h : Host) : List PassWork → Tally → Logged (List PassWork × Tally)
  | [], t => pure ([], t)
  | w :: ws, t => do
    let (left, _, t) ← e.process h w.shader w.snippet w.candidates t
    let (ws, t) ← e.processWork h ws t
    return ({ w with candidates := left } :: ws, t)

/-- Processes parts, each of which is counted on its own, and merges their counts. -/
def processShards (e : Engine) (h : Host) : Shards → Logged (List PassWork × Tally)
  | .part items => e.processWork h items {}
  | .join left right => do
    let (ws, t) ← e.processShards h left
    let (us, u) ← e.processShards h right
    return (ws ++ us, t.merge u)

end Engine

namespace Stripper

/-- Processes passes in order. -/
def processWork (s : Stripper) (h : Host) : List PassWork → Logged (List PassWork × Stripper)
  | [] => pure ([], s)
  | w :: ws => do
    let (left, _, s) ← s.process h w.shader w.snippet w.candidates
    let (ws, s) ← s.processWork h ws
    return ({ w with candidates := left } :: ws, s)

/-- Processes passes, in parts if there is more than one job. -/
def replayWork (s : Stripper) (h : Host) (sharding : Sharding) (jobs : Nat)
    (work : List PassWork) : Logged (List PassWork × Stripper) :=
  if 1 < jobs then
    match s.engine with
    | none => pure (work, s)
    | some e => do
      let (work, shard) ← e.processShards h (sharding.cut jobs work)
      return (work, s.absorb shard)
  else s.processWork h work

/-- Processes the passes of a recorded build, and leaves the variants in it that are kept. -/
def replay (s : Stripper) (h : Host) (sharding : Sharding) (jobs : Nat) (m : Manifest) :
    Logged (Manifest × Stripper) := do
  let (work, emptied) := m.takeWork
  let (work, s) ← s.replayWork h sharding jobs work
  return (emptied.restoreWork work, s)

end Stripper

end VariantStrip
