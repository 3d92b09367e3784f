/-
The files that a task looks at.

A task runs on a `Disk`. `Invocation.paths` tells which paths have to be on it: what the disk holds
already decides which further ones there are, since settings name catalogs.
-/
import VariantStrip.Command.Strip

namespace VariantStrip

/-- The texts of a place as an absolute path. -/
def Disk.absolute (place : Place) : Path := ⟨"/" ++ "/".intercalate place⟩

/-- The paths where a config file may lie. -/
def Disk.configPaths (d : Disk) (config : Path) : List Path :=
  d.upwards.map fun d => (Disk.absolute d.current).join config

/-- The catalogs that a rule names. -/
def RuleSpec.catalogs : RuleSpec → List Path
  | .includeVariantCatalog o => o.catalogs
  | _ => []

/-- The paths that a strip looks at, as far as the disk tells. -/
def StripOptions.paths (o : StripOptions) (config : Path) (e : Environment) (d : Disk) :
    List Path :=
  let named := [o.settings, o.manifest] ++ d.configPaths config ++ o.output.toList ++
    o.summary.toList
  match StripSession.read o config e d with
  | .error _ => named
  | .ok (s, _) =>
    let build := (StripSession.stripperConfig o s).build
    named ++ s.logPath.toList ++
      s.enabledRules.flatMap fun r => r.spec.catalogs.map build.resolve

/-- The paths that a task looks at, as far as the disk tells. -/
def Invocation.paths (i : Invocation) (e : Environment) (d : Disk) : List Path :=
  match i.command with
  | .strip o => o.paths i.config e d
  | .merge o => o.inputs ++ [o.manifest, o.output]

end VariantStrip
