/-
The decision about a variant.

The rules are asked from first to last. The first rule in scope that votes to strip a variant
strips it; a variant that no rule strips is kept. An answer that fails counts as no, and is
reported.
-/
import VariantStrip.Message
import VariantStrip.Rule.Built
import VariantStrip.Settings
import VariantStrip.Tally

namespace VariantStrip

/-- What becomes of a variant, and by which rule; rules are counted from zero. -/
inductive Decision where
  /-- The shader is part of every build, and rules are not applied to it. -/
  | alwaysIncluded
  | kept (includedBy : Option Nat)
  | stripped (rule : Nat)
  deriving DecidableEq, Repr

/-- Whether a variant is kept. -/
def Decision.isKept : Decision → Bool
  | stripped _ => false
  | _ => true

/-- The rules of a build. -/
structure Engine where
  rules : List Voter
  processAlwaysIncluded : Bool := true
  development : Bool := false

/-- How many variants of a pass were kept and stripped. -/
structure Outcome where
  kept : Nat := 0
  stripped : Nat := 0
  deriving DecidableEq, Repr

/-- The answer of a rule; a failure is reported, and counts as no. -/
def Voter.ask (v : Voter) (q : Question) (c : Context) : Logged Bool :=
  let answer := match q with
    | .scope => v.inScope c
    | .inclusion => v.votesInclude c
    | .stripping => v.votesStrip c
  match answer with
  | .ok b => pure b
  | .error e => ⟨false, [.questionFailed v.label q e]⟩

/-- The answer of a rule to a question that its kind takes part in, and another value if it does
not. -/
def Voter.askIf (takesPart : Bool) (otherwise : Bool) (v : Voter) (q : Question) (c : Context) :
    Logged Bool :=
  if takesPart then v.ask q c else pure otherwise

/-- The decision of the rules from position `i` on, given which rule has voted to keep the
variant. -/
def decideFrom (c : Context) (i : Nat) (includedBy : Option Nat) : List Voter → Logged Decision
  | [] => pure (.kept includedBy)
  | v :: vs => do
    let traits := v.kind.traits
    if ← v.askIf traits.scopeGate true .scope c then
      let votesInclude ← v.askIf traits.includeVote false .inclusion c
      let includedBy := if votesInclude then some (includedBy.getD i) else includedBy
      if ← v.askIf traits.stripVote false .stripping c then
        return .stripped i
      else
        decideFrom c (i + 1) includedBy vs
    else decideFrom c (i + 1) includedBy vs

namespace Engine

/-- Whether the rules are not applied to a shader. -/
def bypasses (e : Engine) (h : Host) (shader : ShaderId) : Bool :=
  !e.processAlwaysIncluded && h.isAlwaysIncluded shader

/-- What becomes of a variant. -/
def decide (e : Engine) (c : Context) : Logged Decision :=
  if e.bypasses c.host c.shader then pure .alwaysIncluded else decideFrom c 0 none e.rules

/-- What the engine is asked about a candidate. -/
def context (e : Engine) (h : Host) (shader : ShaderId) (snippet : Snippet)
    (candidate : Candidate) : Context where
  host := h
  shader
  shaderName := h.nameOf shader
  snippet
  candidate
  development := e.development

/-- Decides about one candidate of a pass whose shader is known to bypass the rules or not. It is
counted in the outcome, and recorded in the entry at a position, which belongs to a key. -/
def processOne (e : Engine) (h : Host) (shader : ShaderId) (snippet : Snippet) (bypass : Bool)
    (key : String) (slot : Nat) (candidate : Candidate) (o : Outcome) (t : Tally) :
    Logged (Bool × Outcome × Tally) := do
  let decision ← (
    if bypass then pure .alwaysIncluded
    else decideFrom (e.context h shader snippet candidate) 0 none e.rules)
  let shown := signature candidate.keywords
  let o ← match decision with
    | .stripped i => do
      Logged.say (.variantStripped key shown ((e.rules[i]?.map (·.label)).getD ""))
      pure { o with stripped := o.stripped + 1 }
    | _ => pure { o with kept := o.kept + 1 }
  return (decision.isKept, o, t.record slot shown decision.isKept)

/-- Decides about candidates in order, and returns those that are kept. -/
def processAll (e : Engine) (h : Host) (shader : ShaderId) (snippet : Snippet) (bypass : Bool)
    (key : String) (slot : Nat) : List Candidate → Outcome → Tally →
    Logged (List Candidate × Outcome × Tally)
  | [], o, t => pure ([], o, t)
  | c :: cs, o, t => do
    let (kept, o, t) ← e.processOne h shader snippet bypass key slot c o t
    let (rest, o, t) ← e.processAll h shader snippet bypass key slot cs o t
    return (if kept then c :: rest else rest, o, t)

/-- Decides about the candidates of a pass: those that are kept, how many are kept and stripped, and
the tally with the pass in it, also when it has no candidates. -/
def process (e : Engine) (h : Host) (shader : ShaderId) (snippet : Snippet)
    (candidates : List Candidate) (t : Tally) : Logged (List Candidate × Outcome × Tally) :=
  let key := passKey (h.nameOf shader) snippet.passType snippet.passName
  let (slot, t) := t.slot key
  e.processAll h shader snippet (e.bypasses h shader) key slot candidates {} t

end Engine

end VariantStrip
