/-
What the program can be asked to do.
-/
import VariantStrip.Overrides
import VariantStrip.Spelled

namespace VariantStrip

/-- From which importance on messages are shown. -/
inductive LogLevel where
  | trace
  | debug
  | info
  | warn
  | error
  deriving DecidableEq, Repr

/-- From which importance on messages about single decisions are shown. -/
inductive DecisionLevel where
  | trace
  | debug
  | info
  | warn
  deriving DecidableEq, Repr

/-- The name of a level on the command line. -/
def LogLevel.name : LogLevel → String
  | trace => "trace"
  | debug => "debug"
  | info => "info"
  | warn => "warn"
  | error => "error"

/-- The name of a level on the command line. -/
def DecisionLevel.name : DecisionLevel → String
  | trace => "trace"
  | debug => "debug"
  | info => "info"
  | warn => "warn"

instance : Spelled LogLevel where
  values := [.trace, .debug, .info, .warn, .error]
  spell := LogLevel.name

instance : Spelled DecisionLevel where
  values := [.trace, .debug, .info, .warn]
  spell := DecisionLevel.name

/-- What a recorded build is stripped with. -/
structure StripOptions where
  settings : Path
  manifest : Path
  /-- Report settings, over those of all other places. -/
  overrides : ReportOverrides := {}
  assetBundles : Bool := false
  development : Bool := false
  /-- In how many parts the passes may be processed. -/
  jobs : Nat := 1
  /-- Where the manifest with the variants that are kept goes. -/
  output : Option Path := none
  /-- Where the report as data goes. -/
  summary : Option Path := none
  deriving DecidableEq, Repr

/-- What catalogs are merged with. -/
structure MergeOptions where
  inputs : List Path
  manifest : Path
  output : Path
  deriving DecidableEq, Repr

/-- A task. -/
inductive Command where
  | strip (options : StripOptions)
  | merge (options : MergeOptions)
  deriving DecidableEq, Repr

/-- A task with the options that every task has. -/
structure Invocation where
  command : Command
  logLevel : LogLevel := .info
  decisionLevel : DecisionLevel := .warn
  config : Path := ⟨"shader-stripper.toml"⟩
  deriving DecidableEq, Repr

end VariantStrip
