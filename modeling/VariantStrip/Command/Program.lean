/-
The program: from arguments to what is printed and written.

A run of the program has two steps: `Invocation.compute` reads files and decides, and
`PreparedResult.finish` writes files. `Invocation.run` joins them, and `ProgramResult.ofArguments`
starts from the arguments and ends with what is printed and the exit code.
-/
import VariantStrip.Command.Merge
import VariantStrip.Command.Options
import VariantStrip.Command.Strip
import VariantStrip.Pattern.Estimate

namespace VariantStrip

variable [Pattern.Capacity]

/-- The line on the totals of a strip, after a note if no rule was enabled. -/
def StripTotals.text (t : StripTotals) : String :=
  let note := if t.enabled then "" else "Shader stripping disabled: no enabled rules\n"
  note ++ s!"Passes: {t.passes} | Variants kept: {t.variantsOut} | " ++
    s!"Variants stripped: {t.variantsIn - t.variantsOut}\n"

/-- The line on a merged catalog. -/
def mergedText (variants : Nat) : String := s!"Merged catalog: {variants} variants\n"

/-- What a task has come to before anything is written. -/
inductive PreparedResult where
  | strip (options : StripOptions) (result : StripResult)
  | merge (options : MergeOptions) (merged : Catalog)

namespace Invocation

/-- Does everything up to the point where files are written. -/
def compute (i : Invocation) (e : Environment) (sharding : Sharding) (d : Disk) :
    Logged (Except CommandError PreparedResult) := do
  match i.command with
  | .strip o => return (← o.compute i.config e sharding d).map (.strip o)
  | .merge o => return (← o.compute d).map (.merge o)

end Invocation

/-- Writes files. The answer is what is printed. -/
def PreparedResult.finish (r : PreparedResult) (clock : RunClock) (d : Disk) :
    Logged (Except CommandError String × Disk) := do
  match r with
  | .strip o result =>
    let (outcome, d) ← result.finish o clock d
    return (outcome.map (·.text), d)
  | .merge o merged =>
    let (outcome, d) := o.finish merged d
    return (outcome.map mergedText, d)

/-- Does a task. The answer is what is printed. -/
def Invocation.run (i : Invocation) (e : Environment) (sharding : Sharding) (clock : RunClock)
    (d : Disk) : Logged (Except CommandError String × Disk) := do
  match ← i.compute e sharding d with
  | .error failure => return (.error failure, d)
  | .ok r => r.finish clock d

/-! ### Messages -/

namespace Message

/-- Whether a message is about a single decision. -/
def isDecision : Message → Bool
  | questionFailed .. | variantStripped .. => true
  | _ => false

end Message

/-- The place of a level: messages up to the place that is asked for are shown. -/
def LogLevel.rank : LogLevel → Nat
  | error => 0
  | warn => 1
  | info => 2
  | debug => 3
  | trace => 4

/-- The place of a level: messages up to the place that is asked for are shown. -/
def DecisionLevel.rank : DecisionLevel → Nat
  | warn => 1
  | info => 2
  | debug => 3
  | trace => 4

/-- The place of a message. -/
def Level.rank : Level → Nat
  | warn => 1
  | info => 2
  | debug => 3
  | trace => 4

/-- Whether a message is shown. -/
def Invocation.shows (i : Invocation) (m : Message) : Bool :=
  m.level.rank ≤ if m.isDecision then i.decisionLevel.rank else i.logLevel.rank

/-! ### Results -/

/-- The name of the program and its version. -/
def programVersion : String := "shader-stripper 0.1.0"

/-- How the program is called. -/
def programHelp : String :=
  "\n".intercalate [
    "Usage: shader-stripper [OPTIONS] <COMMAND>",
    "",
    "Commands:",
    "  strip  Replay a recorded build manifest through the stripping rules",
    "  merge  Combine reference catalogs into one validated catalog",
    "  help   Print this message",
    "",
    "Options:",
    "  --log-level <LEVEL>           trace, debug, info (default), warn, error",
    "  --decision-log-level <LEVEL>  trace, debug, info, warn (default)",
    "  --config <FILE>               TOML file with report settings",
    "  -h, --help                    Print help",
    "  -V, --version                 Print version",
    "",
    "Strip: -s, --settings <FILE>  -m, --manifest <FILE>  [--log-dir <DIR>]",
    "       [--log-included-variants <BOOL>]  [--log-stripped-variants <BOOL>]",
    "       [--asset-bundles]  [--development]  [-j, --jobs <JOBS>]",
    "       [-o, --output <FILE>]  [--summary <FILE>]",
    "Merge: <CATALOG>...  -m, --manifest <FILE>  -o, --output <FILE>"] ++ "\n"

/-- What a run of the program shows. -/
structure ProgramResult where
  exitCode : Nat := 0
  /-- What is printed. -/
  output : String := ""
  /-- What is printed as a complaint. -/
  complaint : String := ""
  deriving DecidableEq, Repr

namespace ProgramResult

/-- The result of arguments that are no task. Help and version are printed if asked for; all else
is a complaint. -/
def ofUsageError : UsageError → ProgramResult
  | .help => { output := programHelp }
  | .version => { output := programVersion ++ "\n" }
  | .nothingAsked => { exitCode := 2, complaint := programHelp }
  | e => { exitCode := 2, complaint := s!"error: {e.message}\n" }

/-- The result of a task. -/
def ofOutcome : Except CommandError String → ProgramResult
  | .ok output => { output }
  | .error failure => { exitCode := 1, complaint := s!"Error: {failure.message}\n" }

/-- Runs the program. -/
def ofArguments (arguments : List String) (e : Environment) (sharding : Sharding)
    (clock : RunClock) (d : Disk) : Logged (ProgramResult × Disk) := do
  match Invocation.ofArguments e arguments with
  | .error failure => return (ofUsageError failure, d)
  | .ok i =>
    let (outcome, d) ← i.run e sharding clock d
    return (ofOutcome outcome, d)

end ProgramResult

end VariantStrip
