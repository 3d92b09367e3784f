/-
Reading the command line.

`Invocation.ofArguments` reads the arguments after the name of the program. An option is an
argument that starts with a dash; its value is attached to it or is the next argument, which may
not start with a dash. After two dashes nothing is an option. A value is looked at when the next
option or place argument begins, so a later argument that is not known is the error that is
reported.
-/
import VariantStrip.Command.Basic
import VariantStrip.Config.Environment

namespace VariantStrip

/-- Why the arguments are no task. -/
inductive UsageError where
  /-- Help is asked for. -/
  | help
  /-- The version is asked for. -/
  | version
  /-- There is nothing to do. -/
  | nothingAsked
  /-- There are options and no task. -/
  | taskMissing
  | unknownTask
  | unknownArgument
  /-- A value is missing, empty or none of those that are possible. -/
  | invalidValue
  /-- A value is no number of 64 bits. -/
  | malformedNumber
  /-- A value is attached to an option that takes none. -/
  | unexpectedValue
  | repeatedOption
  | missingArgument
  deriving DecidableEq, Repr

/-- The words for an error. -/
def UsageError.message : UsageError → String
  | help => "help is asked for"
  | version => "the version is asked for"
  | nothingAsked => "there is no task"
  | taskMissing => "a task is required: strip or merge"
  | unknownTask => "unknown task"
  | unknownArgument => "unexpected argument"
  | invalidValue => "a value is missing or not possible"
  | malformedNumber => "a number is malformed"
  | unexpectedValue => "an option takes no value"
  | repeatedOption => "an option cannot be used more than once"
  | missingArgument => "a required argument is missing"

/-- An option of the command line. -/
inductive CliOption where
  | logLevel
  | decisionLevel
  | config
  | settings
  | manifest
  | logDir
  | logIncluded
  | logStripped
  | assetBundles
  | development
  | jobs
  | output
  | summary
  | help
  | version
  deriving DecidableEq, Repr

namespace CliOption

/-- The name after two dashes. -/
def long : CliOption → String
  | logLevel => "log-level"
  | decisionLevel => "decision-log-level"
  | config => "config"
  | settings => "settings"
  | manifest => "manifest"
  | logDir => "log-dir"
  | logIncluded => "log-included-variants"
  | logStripped => "log-stripped-variants"
  | assetBundles => "asset-bundles"
  | development => "development"
  | jobs => "jobs"
  | output => "output"
  | summary => "summary"
  | help => "help"
  | version => "version"

/-- The letter after one dash. -/
def short? : CliOption → Option Char
  | settings => some 's'
  | manifest => some 'm'
  | jobs => some 'j'
  | output => some 'o'
  | help => some 'h'
  | version => some 'V'
  | _ => none

/-- Whether a value belongs to the option. -/
def takesValue : CliOption → Bool
  | assetBundles | development | help | version => false
  | _ => true

end CliOption

/-- Where arguments stand: in front of the name of a task or after it. -/
inductive CliScope where
  | program
  | strip
  | merge
  deriving DecidableEq, Repr

/-- The options that are known. -/
def CliScope.options : CliScope → List CliOption
  | program => [.logLevel, .decisionLevel, .config, .help, .version]
  | strip => [.logLevel, .decisionLevel, .config, .settings, .manifest, .logDir, .logIncluded,
      .logStripped, .assetBundles, .development, .jobs, .output, .summary, .help]
  | merge => [.logLevel, .decisionLevel, .config, .manifest, .output, .help]

/-- The options with their values, and the place arguments, that have been given. -/
structure GivenOptions where
  logLevel : Option LogLevel := none
  decisionLevel : Option DecisionLevel := none
  config : Option Path := none
  settings : Option Path := none
  manifest : Option Path := none
  logDir : Option Path := none
  logIncluded : Option Bool := none
  logStripped : Option Bool := none
  assetBundles : Bool := false
  development : Bool := false
  jobs : Option Nat := none
  output : Option Path := none
  summary : Option Path := none
  inputs : List Path := []
  deriving DecidableEq, Repr

/-! ### Values -/

namespace CliValue

/-- Reads a path, which may not be empty. -/
def path (s : String) : Except UsageError Path :=
  if s.isEmpty then .error .invalidValue else .ok ⟨s⟩

/-- Reads a truth value. -/
def bool (s : String) : Except UsageError Bool :=
  if s = "true" then .ok true else if s = "false" then .ok false else .error .invalidValue

/-- Reads one of the values of a type by its name. -/
def named {α : Type} [Spelled α] (s : String) : Except UsageError α :=
  match Spelled.ofName? s with
  | some a => .ok a
  | none => .error .invalidValue

/-- Reads a number of 64 bits; a plus may stand before it. -/
def count (s : String) : Except UsageError Nat :=
  let digits := match s.toList with
    | '+' :: cs => cs
    | cs => cs
  if digits ≠ [] ∧ digits.all Char.isDigit ∧ Text.natOf digits < Nat.pow 2 64 then
    .ok (Text.natOf digits)
  else .error .malformedNumber

end CliValue

namespace GivenOptions

/-- Whether an option has been given. -/
def has (g : GivenOptions) : CliOption → Bool
  | .logLevel => g.logLevel.isSome
  | .decisionLevel => g.decisionLevel.isSome
  | .config => g.config.isSome
  | .settings => g.settings.isSome
  | .manifest => g.manifest.isSome
  | .logDir => g.logDir.isSome
  | .logIncluded => g.logIncluded.isSome
  | .logStripped => g.logStripped.isSome
  | .assetBundles => g.assetBundles
  | .development => g.development
  | .jobs => g.jobs.isSome
  | .output => g.output.isSome
  | .summary => g.summary.isSome
  | .help | .version => false

/-- Adds an option with the text of its value, which is not looked at if it takes none. No option
may be given twice. -/
def accept (g : GivenOptions) (o : CliOption) (s : String) : Except UsageError GivenOptions :=
  if g.has o then .error .repeatedOption
  else
    match o with
    | .logLevel => return { g with logLevel := some (← CliValue.named s) }
    | .decisionLevel => return { g with decisionLevel := some (← CliValue.named s) }
    | .config => return { g with config := some (← CliValue.path s) }
    | .settings => return { g with settings := some (← CliValue.path s) }
    | .manifest => return { g with manifest := some (← CliValue.path s) }
    | .logDir => return { g with logDir := some (← CliValue.path s) }
    | .logIncluded => return { g with logIncluded := some (← CliValue.bool s) }
    | .logStripped => return { g with logStripped := some (← CliValue.bool s) }
    | .assetBundles => return { g with assetBundles := true }
    | .development => return { g with development := true }
    | .jobs => return { g with jobs := some (← CliValue.count s) }
    | .output => return { g with output := some (← CliValue.path s) }
    | .summary => return { g with summary := some (← CliValue.path s) }
    | .help => throw .help
    | .version => throw .version

end GivenOptions

/-! ### Arguments -/

/-- What has been read and not looked at yet. -/
inductive PendingArgument where
  | nothing
  /-- An option that takes a value, with the value if it has been read. -/
  | value (o : CliOption) (text : Option String)
  /-- Place arguments. -/
  | places (texts : List String)
  deriving DecidableEq, Repr

/-- The arguments up to some point. -/
structure CliScan where
  given : GivenOptions := {}
  pending : PendingArgument := .nothing
  deriving DecidableEq, Repr

namespace CliScan

/-- Looks at what is pending. -/
def settle (s : CliScan) : Except UsageError GivenOptions :=
  match s.pending with
  | .nothing => .ok s.given
  | .value _ none => .error .invalidValue
  | .value o (some text) => s.given.accept o text
  | .places texts => do
    let paths ← texts.mapM CliValue.path
    return { s.given with inputs := s.given.inputs ++ paths }

/-- Whether the value of an option is still to be read. -/
def isWaiting (s : CliScan) : Bool :=
  match s.pending with
  | .value _ none => true
  | _ => false

/-- Reads an option, with a value if one is attached. -/
def option (s : CliScan) (o : CliOption) (attached : Option String) :
    Except UsageError CliScan := do
  let given ← s.settle
  match attached with
  | some text => return { given := ← given.accept o text }
  | none =>
    if o.takesValue then return { given, pending := .value o none }
    else return { given := ← given.accept o "" }

/-- Reads an option by its name; after a sign of equality its value is attached. -/
def longOption (scope : CliScope) (s : CliScan) (cs : List Char) : Except UsageError CliScan :=
  let name := String.ofList (cs.takeWhile (· != '='))
  let attached := match cs.dropWhile (· != '=') with
    | _ :: text => some (String.ofList text)
    | [] => none
  match scope.options.find? (·.long == name) with
  | none => .error .unknownArgument
  | some o =>
    if attached.isSome && !o.takesValue then .error .unexpectedValue else s.option o attached

/-- Reads options by their letters. What follows the letter of an option that takes a value is
attached to it, with or without a sign of equality. -/
def shortOptions (scope : CliScope) (s : CliScan) : List Char → Except UsageError CliScan
  | [] => .ok s
  | c :: cs =>
    match scope.options.find? (·.short? == some c) with
    | none => .error .unknownArgument
    | some o =>
      if o.takesValue then
        s.option o <| match cs with
          | [] => none
          | '=' :: text => some (String.ofList text)
          | text => some (String.ofList text)
      else do
        let s ← s.option o none
        s.shortOptions scope cs

/-- The names of the tasks. -/
def isTask (text : String) : Bool := text == "strip" || text == "merge" || text == "help"

/-- What is wrong with a place argument where the name of a task should stand; after two dashes it
may even be such a name. -/
def misplaced (afterDashes : Bool) (text : String) : UsageError :=
  if afterDashes && isTask text then .unknownArgument else .unknownTask

/-- Reads a place argument, which only a merge has. -/
def place (scope : CliScope) (afterDashes : Bool) (s : CliScan) (text : String) :
    Except UsageError CliScan :=
  match scope with
  | .program => .error (misplaced afterDashes text)
  | .strip => .error .unknownArgument
  | .merge =>
    match s.pending with
    | .places texts => .ok { s with pending := .places (texts ++ [text]) }
    | _ => do return { given := ← s.settle, pending := .places [text] }

/-- Reads an argument in front of two dashes. -/
def argument (scope : CliScope) (s : CliScan) (text : String) : Except UsageError CliScan :=
  match text.toList with
  | '-' :: '-' :: cs => s.longOption scope cs
  | '-' :: c :: cs => s.shortOptions scope (c :: cs)
  | _ =>
    match s.pending with
    | .value o none => .ok { s with pending := .value o (some text) }
    | _ => s.place scope false text

/-- Reads the arguments of a task. -/
def arguments (scope : CliScope) (s : CliScan) : List String → Except UsageError CliScan
  | [] => .ok s
  | text :: rest =>
    if text = "--" then rest.foldlM (place scope true) s
    else do
      let s ← s.argument scope text
      s.arguments scope rest

end CliScan

/-! ### Tasks -/

/-- An option that has to be given. -/
def CliOption.require {α : Type} : Option α → Except UsageError α
  | some a => .ok a
  | none => .error .missingArgument

namespace GivenOptions

/-- The options of a strip. The number of jobs may come from the environment. -/
def strip (g : GivenOptions) (e : Environment) : Except UsageError StripOptions := do
  let jobs ← match g.jobs, e.get? "SHADER_STRIPPER_JOBS" with
    | some n, _ => pure n
    | none, some text => CliValue.count text
    | none, none => pure 1
  return {
    settings := ← CliOption.require g.settings
    manifest := ← CliOption.require g.manifest
    overrides := ⟨g.logDir, g.logIncluded, g.logStripped⟩
    assetBundles := g.assetBundles
    development := g.development
    jobs
    output := g.output
    summary := g.summary }

/-- The options of a merge, which has one input at least. -/
def merge (g : GivenOptions) : Except UsageError MergeOptions :=
  if g.inputs.isEmpty then .error .missingArgument
  else do
    return {
      inputs := g.inputs
      manifest := ← CliOption.require g.manifest
      output := ← CliOption.require g.output }

/-- A task, with the options of the program that stand after its name or, where these are missing,
in front of it. -/
def invocation (before after : GivenOptions) (command : Command) : Invocation :=
  let byDefault : Invocation := { command }
  { command
    logLevel := (after.logLevel.or before.logLevel).getD byDefault.logLevel
    decisionLevel := (after.decisionLevel.or before.decisionLevel).getD byDefault.decisionLevel
    config := (after.config.or before.config).getD byDefault.config }

end GivenOptions

namespace Invocation

/-- Help on a task, if the names that follow lead to one. -/
def helpOn : List String → UsageError
  | [] => .help
  | [text] => if CliScan.isTask text then .help else .unknownTask
  | _ => .unknownTask

/-- Reads the arguments after the name of a task, then looks at what was pending before it. -/
def ofTask (s : CliScan) (scope : CliScope) (task : GivenOptions → Except UsageError Command)
    (arguments : List String) : Except UsageError Invocation := do
  let after ← (← CliScan.arguments scope {} arguments).settle
  let command ← task after
  return GivenOptions.invocation (← s.settle) after command

/-- What is wrong when the arguments end without a task. -/
def withoutTask (s : CliScan) : UsageError :=
  match s.settle with
  | .error e => e
  | .ok given => if given = {} then .nothingAsked else .taskMissing

/-- Reads the arguments in front of the name of a task, and then its own. -/
def scan (e : Environment) (s : CliScan) : List String → Except UsageError Invocation
  | [] => .error (withoutTask s)
  | text :: rest =>
    if !s.isWaiting && text == "strip" then ofTask s .strip (Command.strip <$> ·.strip e) rest
    else if !s.isWaiting && text == "merge" then ofTask s .merge (Command.merge <$> ·.merge) rest
    else if !s.isWaiting && text == "help" then .error (helpOn rest)
    else if text == "--" then
      match rest with
      | [] => .error (withoutTask s)
      | text :: _ => .error (CliScan.misplaced true text)
    else do
      let s ← s.argument .program text
      scan e s rest

/-- Reads the arguments after the name of the program. -/
def ofArguments (e : Environment) (arguments : List String) : Except UsageError Invocation :=
  scan e {} arguments

end Invocation

end VariantStrip
