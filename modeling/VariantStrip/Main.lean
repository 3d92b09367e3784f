/-
The command line.

The files that a task looks at are copied to a `Disk`, the task runs on it, and what it has written
there is written back.
-/
import Std.Time.Format
import VariantStrip.Command.Lookup
import VariantStrip.Command.Program

namespace VariantStrip.Main

/-- What lies at a place of the file system, if anything does. -/
def observe (place : Place) : IO (Option DiskNode) := do
  try
    return some (.file (← IO.FS.readFile (Disk.absolute place).text))
  catch
    | .noFileOrDirectory .. => return none
    | .inappropriateType .. => return some .folder
    | _ => return some .blob

/-- Copies what lies on the way from a place to a disk. -/
def copySteps (d : Disk) (place : Place) : List Path.Component → IO Disk
  | [] => return d
  | step :: steps => do
    match Disk.enter place step with
    | .error _ => return d
    | .ok place =>
      let d ← match d.node? place with
        | some _ => pure d
        | none => do
          match ← observe place with
          | some node => pure { d with entries := Disk.put place node d.entries }
          | none => pure d
      if d.node? place = some .folder then copySteps d place steps else return d

/-- Copies what lies on the way of a path to a disk. -/
def copyPath (d : Disk) (p : Path) : IO Disk := copySteps d d.current p.components

/-- A disk with the files that a task looks at. The paths are determined twice, since the first
time the settings are not there yet. -/
def copyDisk (i : Invocation) (e : Environment) : IO Disk := do
  let here : Path := ⟨(← IO.currentDir).toString⟩
  let names := here.components.filterMap fun
    | .entry name => some (String.ofList name)
    | _ => none
  let d ← copyPath {} here
  let d := { d with current := names }
  let d ← (i.paths e d).foldlM copyPath d
  (i.paths e d).foldlM copyPath d

/-- Writes back what is new on a disk. -/
def writeBack (before after : Disk) : IO Unit :=
  for (place, node) in after.entries do
    if before.node? place ≠ some node then
      match node with
      | .folder => IO.FS.createDirAll (Disk.absolute place).text
      | .file text => IO.FS.writeFile (Disk.absolute place).text text
      | .blob => pure ()

/-- The variables of the environment, or those that matter in their usual spelling if the whole
environment cannot be read. -/
def environment : IO Environment := do
  try
    let lines := (← IO.FS.readFile "/proc/self/environ").splitOn "\x00"
    return lines.filterMap fun line =>
      match line.splitOn "=" with
      | name :: value => some (name, "=".intercalate value)
      | [] => none
  catch _ =>
    let names := ["JOBS", "LOG_DIR", "LOG_INCLUDED_VARIANTS", "LOG_STRIPPED_VARIANTS"]
    names.filterMapM fun name => do
      let name := ReportOverrides.variableStart ++ name
      return (← IO.getEnv name).map (name, ·)

/-- Today. -/
def today : IO Date := do
  let day ← Std.Time.PlainDate.now
  return ⟨day.year.toInt, day.month.toInt.toNat, day.day.toInt.toNat⟩

/-- Shows the messages that are asked for. -/
def showMessages (i : Invocation) (log : List Message) : IO Unit :=
  for m in log do
    if i.shows m then IO.eprintln s!"[{m.level.name}] {m.text}"

/-- Shows a result and ends with its exit code. -/
def showResult (r : ProgramResult) : IO UInt32 := do
  (← IO.getStdout).putStr r.output
  (← IO.getStderr).putStr r.complaint
  return r.exitCode.toUInt32

/-- Does a task. -/
def perform (i : Invocation) (e : Environment) : IO UInt32 := do
  let before ← copyDisk i e
  let started ← IO.monoNanosNow
  let computed ← IO.lazyPure fun () => i.compute e .byHalves before
  let micros := ((← IO.monoNanosNow) - started) / 1000
  showMessages i computed.log
  match computed.value with
  | .error failure => showResult (.ofOutcome (.error failure))
  | .ok result =>
    let written := result.finish ⟨← today, micros, micros⟩ before
    showMessages i written.log
    let (outcome, after) := written.value
    writeBack before after
    showResult (.ofOutcome outcome)

end VariantStrip.Main

open VariantStrip in
/-- Runs the program with the arguments after its name. -/
def main (arguments : List String) : IO UInt32 := do
  let e ← Main.environment
  match Invocation.ofArguments e arguments with
  | .error failure => Main.showResult (.ofUsageError failure)
  | .ok i =>
    try Main.perform i e
    catch failure =>
      Main.showResult { exitCode := 1, complaint := s!"Error: IO Error: {failure}\n" }
