/-
Reports on a build.

A `Report` shows what became of the variants of each pass. `Report.lines` is its text; `Report.save`
writes it to a file named for the day and the kind of build.
-/
import VariantStrip.Disk
import VariantStrip.Message
import VariantStrip.Tally
import VariantStrip.Text.Blank
import VariantStrip.Tree

namespace VariantStrip

/-- What is built. -/
inductive BuildKind where
  | player
  | assetBundles
  deriving DecidableEq, Repr

/-- The name of a kind of build. -/
def BuildKind.name : BuildKind → String
  | player => "Player"
  | assetBundles => "AssetBundles"

/-- The end of the names of its report files. -/
def BuildKind.suffix : BuildKind → String
  | player => "_Build"
  | assetBundles => "_AssetBundles"

/-- The kind of build that a flag asks for. -/
def BuildKind.ofFlag (assetBundles : Bool) : BuildKind :=
  if assetBundles then .assetBundles else .player

/-- Which sections of a report list signatures. -/
structure ReportOptions where
  listIncluded : Bool := true
  listStripped : Bool := false
  deriving DecidableEq, Repr

/-- A day of the calendar. -/
structure Date where
  year : Int
  month : Nat
  day : Nat
  deriving DecidableEq, Repr

/-- A number with zeros in front of it, up to a width. -/
def padZeros (width n : Nat) : String :=
  let digits := toString n
  String.ofList (List.replicate (width - digits.length) '0') ++ digits

/-- A year, with four digits at least; one beyond these has a sign. -/
def yearText (year : Int) : String :=
  if year < 0 then "-" ++ padZeros 4 year.natAbs
  else (if year ≤ 9999 then "" else "+") ++ padZeros 4 year.natAbs

/-- A day as year, month and day. -/
def Date.text (d : Date) : String :=
  s!"{yearText d.year}-{padZeros 2 d.month}-{padZeros 2 d.day}"

/-- What became of the variants of a build. Times are in microseconds. -/
structure Report where
  buildTime : Nat
  stripTime : Nat
  included : Nat
  stripped : Nat
  kind : BuildKind
  options : ReportOptions
  passes : List (String × PassTally)

namespace Report

/-- The report on a tally, after a build that took some time. -/
def ofTally (t : Tally) (buildTime : Nat) (options : ReportOptions) (kind : BuildKind) :
    Report where
  buildTime
  stripTime := t.stripTime
  included := t.included
  stripped := t.stripped
  kind
  options
  passes := t.entries

/-- Whether no pass has been seen. -/
def isEmpty (r : Report) : Bool := r.passes.isEmpty

/-- The lines on the whole build. -/
def headline (r : Report) : List String :=
  [s!"Build Duration: {r.buildTime / 1000}ms",
    s!"Shader Stripping Duration: {r.stripTime / 1000}ms",
    s!"Total shaders included: {r.included}",
    s!"Total shaders stripped: {r.stripped}"]

/-- The line around the titles of sections. -/
def separator : String := String.ofList (List.replicate 100 '-')

/-- How a signature is listed; one that cannot be seen is named. -/
def shownSignature (signature : String) : String :=
  if signature.toList.all Text.isBlank then "<no keywords>" else signature

/-- The lines on one pass: none if there are no variants. -/
def passLines (details : Bool) (key : String) (count : Nat) (signatures : StringSet) :
    List String :=
  if count = 0 then []
  else
    s!"{key} [{count} variants | {signatures.size} combinations]" ::
      if details then
        signatures.toList.map (fun s => "\t " ++ shownSignature s) ++ [""]
      else []

/-- The title of a section. -/
def sectionTitle (title : String) : List String := [separator, "", title, "", separator, ""]

/-- The section on the variants that were kept. -/
def includedSection (r : Report) : List String :=
  sectionTitle "INCLUDED SHADER VARIANTS" ++
    r.passes.flatMap fun (key, p) => passLines r.options.listIncluded key p.includeCount p.included

/-- The section on the variants that were stripped. -/
def strippedSection (r : Report) : List String :=
  sectionTitle "STRIPPED SHADER VARIANTS" ++
    r.passes.flatMap fun (key, p) => passLines r.options.listStripped key p.stripCount p.stripped

/-- The lines of the report. -/
def lines (r : Report) : List String :=
  r.headline ++ [""] ++ r.includedSection ++ [""] ++ r.strippedSection

/-- The text of the report. -/
def text (r : Report) : String := "\n".intercalate r.lines ++ "\n"

/-- The name of the file that the report is written to. -/
def fileName (r : Report) (today : Date) : String :=
  s!"ShaderStripLog_{today.text}{r.kind.suffix}.log"

/-- Writes the report into a folder; none is written if no pass has been seen. -/
def save (r : Report) (folder : Path) (today : Date) (d : Disk) :
    Logged (Except StripError (Option Path) × Disk) := do
  if r.isEmpty then
    Logged.say .reportEmpty
    return (.ok none, d)
  match d.createFolders folder with
  | (.error fault, d) => return (.error (.report fault), d)
  | (.ok (), d) =>
    let path := folder.join ⟨r.fileName today⟩
    match d.write path r.text with
    | .ok d => return (.ok (some path), d)
    | .error fault => return (.error (.report fault), d)

/-- A time as seconds and nanoseconds. -/
def timeTree (micros : Nat) : Tree :=
  .record [("secs", .nat (micros / 1000000)), ("nanos", .nat (micros % 1000000 * 1000))]

/-- What is written of a pass. -/
def passTree (p : PassTally) : Tree :=
  .record [("include_count", .nat p.includeCount), ("strip_count", .nat p.stripCount),
    ("include_variants", .list (p.included.toList.map .text)),
    ("strip_variants", .list (p.stripped.toList.map .text))]

/-- What is written of a report as data. -/
def tree (r : Report) : Tree :=
  .record [
    ("stats", .record [
      ("build_duration", timeTree r.buildTime),
      ("strip_duration", timeTree r.stripTime),
      ("total_included", .nat r.included),
      ("total_stripped", .nat r.stripped)]),
    ("kind", .word r.kind.name),
    ("options", .record [
      ("log_included_variants", .bool r.options.listIncluded),
      ("log_stripped_variants", .bool r.options.listStripped)]),
    ("passes", .list (r.passes.map fun (key, p) => .list [.text key, passTree p]))]

end Report

end VariantStrip
