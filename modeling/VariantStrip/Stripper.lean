/-
One build run after another.

A `Stripper` is prepared for a build, is shown the candidates of each pass, and reports what became
of them. Preparing starts afresh, whatever happened before.
-/
import VariantStrip.Engine
import VariantStrip.Report

namespace VariantStrip

variable [Pattern.Capacity]

/-- A rule that has been built, with its description. -/
structure DescribedRule where
  description : String
  rule : BuiltRule

/-- How a described rule votes. -/
def DescribedRule.voter (r : DescribedRule) : Voter := r.rule.voter r.description

namespace Engine

/-- Builds the rules that are enabled; the first malformed filter is the failure. -/
def buildRules (b : BuildContext) (rules : List Rule) : Except StripError (List DescribedRule) :=
  (rules.filter (·.enabled)).mapM fun r => do return ⟨r.description, ← BuiltRule.ofSpec b r.spec⟩

/-- Loads what the rules need, in order. -/
def prepareRules (d : Disk) (h : Host) :
    List DescribedRule → Logged (Except StripError (List DescribedRule))
  | [] => return .ok []
  | r :: rs => do
    match ← r.rule.prepare d h with
    | .error e => return .error e
    | .ok rule => return (← prepareRules d h rs).map (⟨r.description, rule⟩ :: ·)

/-- The engine of some rules. -/
def ofRules (rules : List DescribedRule) (s : Settings) (development : Bool) : Engine where
  rules := rules.map (·.voter)
  processAlwaysIncluded := s.processAlwaysIncluded
  development

end Engine

/-- What a stripper is set up with. -/
structure StripperConfig where
  settings : Settings := {}
  build : BuildContext := {}
  development : Bool := false

/-- A stripper: what it is set up with, and the state of the current build. -/
structure Stripper where
  config : StripperConfig
  engine : Option Engine := none
  tally : Tally := {}
  kind : BuildKind := .player

namespace Stripper

/-- Whether variants are stripped in the current build. -/
def isEnabled (s : Stripper) : Bool := s.engine.isSome

/-- The engine of a build, or none if no rule is enabled. -/
def engineFor (c : StripperConfig) (kind : BuildKind) (d : Disk) (h : Host) :
    Logged (Except StripError (Option Engine)) := do
  match Engine.buildRules c.build c.settings.rules with
  | .error e => return .error e
  | .ok [] =>
    Logged.say .strippingDisabled
    return .ok none
  | .ok rules =>
    match ← Engine.prepareRules d h rules with
    | .error e => return .error e
    | .ok rules =>
      Logged.say (.strippingEnabled rules.length kind.name)
      return .ok (some (.ofRules rules c.settings c.development))

/-- Prepares for a build. After a failure, as without rules, nothing is stripped. -/
def prepare (s : Stripper) (d : Disk) (h : Host) (assetBundles : Bool) :
    Logged (Except StripError Unit × Stripper) := do
  let kind := BuildKind.ofFlag assetBundles
  match ← engineFor s.config kind d h with
  | .error e => return (.error e, { config := s.config, kind })
  | .ok engine => return (.ok (), { config := s.config, kind, engine })

/-- Decides about the candidates of a pass, and returns those that are kept. -/
def process (s : Stripper) (h : Host) (shader : ShaderId) (snippet : Snippet)
    (candidates : List Candidate) : Logged (List Candidate × Outcome × Stripper) :=
  match s.engine with
  | none => pure (candidates, ⟨candidates.length, 0⟩, s)
  | some engine => do
    let (left, outcome, tally) ← engine.process h shader snippet candidates s.tally
    return (left, outcome, { s with tally })

/-- Adds the counts of a part of the build that was processed elsewhere. -/
def absorb (s : Stripper) (shard : Tally) : Stripper := { s with tally := s.tally.merge shard }

/-- Which sections of reports list signatures. -/
def reportOptions (s : Stripper) : ReportOptions where
  listIncluded := s.config.settings.logIncluded
  listStripped := s.config.settings.logStripped

/-- Writes a report into the folder that is configured, if any. A report that cannot be written is
no failure of the build. -/
def publish (s : Stripper) (r : Report) (today : Date) (d : Disk) : Logged Disk :=
  match s.config.settings.logPath with
  | none => do
    Logged.say .reportNotConfigured
    return d
  | some folder => do
    match ← r.save folder today d with
    | (.ok (some path), d) =>
      Logged.say (.reportWritten path)
      return d
    | (.ok none, d) => return d
    | (.error cause, d) =>
      Logged.say (.reportFailed folder cause)
      return d

/-- Ends a build that took some time, in microseconds: writes the report and starts counting
afresh. There is no report if nothing was to be stripped. -/
def finalize (s : Stripper) (buildTime : Nat) (today : Date) (d : Disk) :
    Logged (Option Report × Stripper × Disk) :=
  match s.engine with
  | none => pure (none, s, d)
  | some _ => do
    let report := Report.ofTally s.tally buildTime s.reportOptions s.kind
    Logged.say (.totals ("\n".intercalate report.headline))
    let d ← s.publish report today d
    return (some report, { s with tally := {} }, d)

end Stripper

end VariantStrip
