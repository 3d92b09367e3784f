/-
Report settings from outside of the settings of a build.

They come in layers: a config file, the environment, the command line. What an upper layer leaves
open is settled by the next lower one, and at the bottom by the settings of the build:

* `ReportOverrides.ofLayer?` reads the file and the environment,
* `ReportOverrides.orElse` puts the command line on top,
* `ReportOverrides.apply` puts the result over the settings.
-/
import VariantStrip.Config.Environment
import VariantStrip.Disk
import VariantStrip.Settings

namespace VariantStrip

/-- Report settings, each of which may be left open. -/
structure ReportOverrides where
  logDir : Option Path := none
  logIncluded : Option Bool := none
  logStripped : Option Bool := none
  deriving DecidableEq, Repr, Inhabited

/-- Why report settings could not be read. -/
inductive ConfigError where
  /-- The config file could not be read. -/
  | file (fault : DiskFault)
  /-- The config file is malformed. -/
  | malformed (path : Path)
  /-- A setting has a value of another kind than it should. -/
  | wrongKind
  deriving DecidableEq, Repr

/-- The words for a failure. -/
def ConfigError.message : ConfigError → String
  | file fault => s!"config file: {fault.message}"
  | malformed path => s!"malformed config file {path.text}"
  | wrongKind => "a setting has a value of the wrong kind"

namespace ReportOverrides

/-- The start of the names of variables that are settings. -/
def variableStart : String := "SHADER_STRIPPER_"

/-- A path that may be bound in a layer; any text will do. -/
def path? : Option ConfigValue → Option (Option Path)
  | none => some none
  | some (.text s) => some (some ⟨s⟩)
  | some _ => none

/-- A truth value that may be bound in a layer. -/
def bool? : Option ConfigValue → Option (Option Bool)
  | none => some none
  | some (.bool b) => some (some b)
  | some _ => none

/-- Reads the settings that a layer binds; none if one has a value of the wrong kind. Other keys
do not count. -/
def ofLayer? (l : ConfigLayer) : Option ReportOverrides := do
  return {
    logDir := ← path? (l.get? "log_dir")
    logIncluded := ← bool? (l.get? "log_included_variants")
    logStripped := ← bool? (l.get? "log_stripped_variants") }

/-- The settings of an upper layer, and where it leaves them open those of a lower one. -/
def orElse (upper lower : ReportOverrides) : ReportOverrides where
  logDir := upper.logDir.or lower.logDir
  logIncluded := upper.logIncluded.or lower.logIncluded
  logStripped := upper.logStripped.or lower.logStripped

/-- The settings of a build, where they are not overridden. -/
def apply (o : ReportOverrides) (s : Settings) : Settings :=
  { s with
    logPath := o.logDir.or s.logPath
    logIncluded := o.logIncluded.getD s.logIncluded
    logStripped := o.logStripped.getD s.logStripped }

/-- The layer of a config file, which is looked for in the current folder and in those above it. A
missing file binds nothing. -/
def fileLayer (d : Disk) (config : Path) : Except ConfigError ConfigLayer :=
  match d.readUpwards config with
  | .error .notFound => .ok []
  | .error fault => .error (.file fault)
  | .ok text =>
    match Toml.parse? text.toList with
    | some t => .ok t.layer
    | none => .error (.malformed config)

/-- Puts the settings of a file, of the environment and of the command line on top of each other.
A value of the wrong kind in one of the first two is a failure unless the environment hides it from
the file. -/
def ofLayers (file environment : ConfigLayer) (arguments : ReportOverrides) :
    Except ConfigError ReportOverrides :=
  match ofLayer? (file ++ environment) with
  | some o => .ok (arguments.orElse o)
  | none => .error .wrongKind

/-- Reads the report settings of a run. -/
def load (d : Disk) (config : Path) (e : Environment) (arguments : ReportOverrides) :
    Except ConfigError ReportOverrides := do
  ofLayers (← fileLayer d config) (e.layer variableStart) arguments

end ReportOverrides

end VariantStrip
