/-
Stripping a recorded build.

A strip has three steps: `StripSession.start` reads what is needed and prepares the rules,
`StripSession.replay` processes the passes, and `StripSession.finish` writes the results. Nothing
is written before the last step.
-/
import VariantStrip.Command.Basic
import VariantStrip.Command.Error
import VariantStrip.Json.Writer
import VariantStrip.Replay
import VariantStrip.Settings.File

namespace VariantStrip

variable [Pattern.Capacity]

/-- The totals of a strip. -/
structure StripTotals where
  passes : Nat
  variantsIn : Nat
  variantsOut : Nat
  /-- Whether any rule was enabled. -/
  enabled : Bool
  deriving DecidableEq, Repr

/-- What the clock says about a run: its day, and the microseconds that the whole of it and the
decisions took. -/
structure RunClock where
  today : Date
  buildTime : Nat := 0
  stripTime : Nat := 0

/-- A strip that has been prepared: the stripper, the recorded build and the host that knows its
shaders. -/
structure StripSession where
  stripper : Stripper
  host : Host
  manifest : Manifest

/-- A strip whose passes have been processed, with the variants of the build before it. -/
structure StripResult where
  stripper : Stripper
  manifest : Manifest
  passes : Nat
  variantsIn : Nat

namespace StripSession

/-- Reads the settings and the recorded build; of several failures the first one counts. -/
def read (o : StripOptions) (config : Path) (e : Environment) (d : Disk) :
    Except CommandError (Settings × Manifest) := do
  let settings ← (Settings.load d o.settings).mapError .load
  let overrides ← (ReportOverrides.load d config e o.overrides).mapError .config
  let manifest ← (Manifest.load d o.manifest).mapError .manifest
  return (overrides.apply settings, manifest)

/-- What the stripper is set up with: paths of catalogs start from the folder of the settings. -/
def stripperConfig (o : StripOptions) (s : Settings) : StripperConfig where
  settings := s
  build := { baseDir := o.settings.parent? }
  development := o.development

/-- Reads what is needed and prepares the rules. -/
def start (o : StripOptions) (config : Path) (e : Environment) (d : Disk) :
    Logged (Except CommandError StripSession) :=
  match read o config e d with
  | .error failure => pure (.error failure)
  | .ok (settings, manifest) => do
    let (outcome, stripper) ←
      Stripper.prepare ⟨stripperConfig o settings, none, {}, .player⟩ d manifest.host o.assetBundles
    match outcome with
    | .error cause => return .error (.strip cause)
    | .ok () => return .ok ⟨stripper, manifest.host, manifest⟩

/-- Processes the passes. -/
def replay (session : StripSession) (sharding : Sharding) (jobs : Nat) : Logged StripResult := do
  let (manifest, stripper) ← session.stripper.replay session.host sharding jobs session.manifest
  return {
    stripper
    manifest
    passes := session.manifest.takeWork.1.length
    variantsIn := session.manifest.variantCount }

end StripSession

/-- Writes a report as data, after making the folders above the file. What has been made stays when
a step fails. -/
def saveSummary (r : Report) (p : Path) (d : Disk) : Except CommandError Unit × Disk :=
  let folder := p.parent?.getD ⟨""⟩
  match d.createFolders folder with
  | (.error fault, d) => (.error (.summaryFolder folder fault), d)
  | (.ok (), d) =>
    match d.write p (Json.write r.tree ++ "\n") with
    | .error fault => (.error (.summaryFile p fault), d)
    | .ok d => (.ok (), d)

namespace StripResult

/-- The totals. -/
def totals (r : StripResult) : StripTotals where
  passes := r.passes
  variantsIn := r.variantsIn
  variantsOut := r.manifest.variantCount
  enabled := r.stripper.isEnabled

/-- Writes the manifest and the summary where they are asked for. -/
def save (r : StripResult) (o : StripOptions) (report : Option Report) (d : Disk) :
    Except CommandError Unit × Disk :=
  let saved := match o.output with
    | some p => (r.manifest.save d p).mapError CommandError.manifest
    | none => .ok d
  match saved with
  | .error failure => (.error failure, d)
  | .ok d =>
    match o.summary, report with
    | some p, some report => saveSummary report p d
    | _, _ => (.ok (), d)

/-- Writes the results: the report, the manifest and the summary. -/
def finish (r : StripResult) (o : StripOptions) (clock : RunClock) (d : Disk) :
    Logged (Except CommandError StripTotals × Disk) := do
  let stripper := { r.stripper with tally := r.stripper.tally.addStripTime clock.stripTime }
  let (report, _, d) ← stripper.finalize clock.buildTime clock.today d
  let (outcome, d) := r.save o report d
  return (outcome.map fun () => r.totals, d)

end StripResult

namespace StripOptions

/-- Everything up to the point where the results are written. -/
def compute (o : StripOptions) (config : Path) (e : Environment) (sharding : Sharding) (d : Disk) :
    Logged (Except CommandError StripResult) := do
  match ← StripSession.start o config e d with
  | .error failure => return .error failure
  | .ok session => return .ok (← session.replay sharding o.jobs)

/-- Strips a recorded build. -/
def run (o : StripOptions) (config : Path) (e : Environment) (sharding : Sharding)
    (clock : RunClock) (d : Disk) : Logged (Except CommandError StripTotals × Disk) := do
  match ← o.compute config e sharding d with
  | .error failure => return (.error failure, d)
  | .ok r => r.finish o clock d

end StripOptions

end VariantStrip
