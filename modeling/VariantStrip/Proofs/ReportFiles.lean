/-
What is left of the reports on many builds.

A report is written to a file that is named for the day and the kind of build.  So builds of
different days or kinds leave each other's reports alone, and a build replaces the report on an
earlier one of its day and kind:

* `Disk.apart_join` — files of different names in a folder do not lie at one place,
* `Disk.Takes.of_write` — a folder that takes reports goes on taking them,
* `BuildRun.takes_perform`, `BuildRun.grows_perform` — what one build keeps of the disk,
* `BuildRun.takes_performAll`, `BuildRun.grows_performAll` — what any builds keep of it.

The main result is `last_reports_stay`.
-/
import VariantStrip.Proofs.History
import VariantStrip.Proofs.Separated
import VariantStrip.Proofs.Writing

namespace VariantStrip

open Disk (Grows)

/-! ### Files in a folder -/

namespace Disk

variable {d d' : Disk}

theorem placeOf_of_locate {p : Path} {place : Place} (h : d.locate p = .ok place) :
    d.placeOf p.components = .ok place := by
  rw [locate] at h
  by_cases hempty : p.isEmpty = true
  · rw [if_pos hempty] at h
    cases h
  rw [if_neg hempty] at h
  obtain ⟨q, hq, hrest⟩ := bind_eq_ok_iff.mp h
  have hplace : q = place := by
    by_cases hfolder : asksFolder p = true
    · rw [if_pos hfolder] at hrest
      obtain ⟨_, -, hq⟩ := bind_eq_ok_iff.mp hrest
      exact Except.ok.inj hq
    · rw [if_neg hfolder] at hrest
      exact Except.ok.inj hrest
  rw [← hplace]
  exact hq

/-- What can be read is the text of a file. -/
theorem exists_mem_entries_of_read {p : Path} {text : String} (h : d.read p = .ok text) :
    ∃ place, (place, .file text) ∈ d.entries := by
  rw [read] at h
  obtain ⟨place, -, hnode⟩ := bind_eq_ok_iff.mp h
  refine ⟨place, ?_⟩
  split at hnode
  · next shown hfile =>
    rw [← Except.ok.inj hnode]
    rw [node?] at hfile
    split at hfile
    · cases hfile
    · obtain ⟨front, back, hentries, -⟩ := List.lookup_eq_some_iff.mp hfile
      rw [hentries]
      exact List.mem_append_right _ List.mem_cons_self
  · cases hnode
  · cases hnode
  · cases hnode

section

variable {folder : Path} {name : String} (hname : Path.IsName name) {place : Place}
  (hplace : d.locate (folder.join ⟨name⟩) = .ok place)

include hname hplace

/-- A file lies in a folder that is there. -/
theorem isFolder_of_locate_join : d.isFolder folder.components = true := by
  have hsteps := placeOf_of_locate hplace
  rw [Path.components_join folder hname] at hsteps
  have hfolder := isFolder_dropLast (by simp) hsteps
  rwa [List.dropLast_concat] at hfolder

/-- A file lies under its name. -/
theorem eq_append_of_locate_join : ∃ above, place = above ++ [name] := by
  have hsteps := placeOf_of_locate hplace
  rw [Path.components_join folder hname, placeOf, follow_append] at hsteps
  obtain ⟨above, -, hlast⟩ := bind_eq_ok_iff.mp hsteps
  obtain ⟨_, -, hentered⟩ := bind_eq_ok_iff.mp hlast
  obtain ⟨q, hq, hrest⟩ := bind_eq_ok_iff.mp hentered
  refine ⟨above, ?_⟩
  rw [enter, String.ofList_toList] at hq
  split at hq
  · rw [← Except.ok.inj hrest, ← Except.ok.inj hq]
  · cases hq

end

/-- **Files of different names** do not lie at one place. -/
theorem apart_join {folder folder' : Path} {name name' : String} (hname : Path.IsName name)
    (hname' : Path.IsName name') (hne : name ≠ name') :
    d.Apart (folder.join ⟨name⟩) (folder'.join ⟨name'⟩) := by
  intro place hplace hplace'
  obtain ⟨above, habove⟩ := eq_append_of_locate_join hname hplace
  obtain ⟨above', habove'⟩ := eq_append_of_locate_join hname' hplace'
  rw [habove] at habove'
  exact hne (List.append_singleton_inj.mp habove').2

/-- A folder takes files of some names: it can be made, and then they can be written. -/
structure Takes (d : Disk) (folder : Path) (names : List String) : Prop where
  made : (d.createFolders folder).1 = .ok ()
  writable : ∀ name ∈ names, (d.createFolders folder).2.Writable (folder.join ⟨name⟩)

/-- **After a file has been written** the folder takes files as before. -/
theorem Takes.of_write {folder : Path} {names : List String} (h : d.Takes folder names)
    {name text : String} (hname : Path.IsName name)
    (hwrite : (d.createFolders folder).2.write (folder.join ⟨name⟩) text = .ok d') :
    d'.Takes folder names := by
  obtain ⟨place, hplace, -, -, hnode⟩ := write_ok hwrite
  have hgrows := grows_write hwrite
  have hmade : d'.createFolders folder = (.ok (), d') :=
    makeFolders_of_isFolder (isFolder_of_locate_join hname (hgrows.locate_ok hplace))
  refine ⟨by rw [hmade], fun other hother => ?_⟩
  obtain ⟨q, hq, hfile⟩ := h.writable other hother
  rw [hmade]
  refine ⟨q, hgrows.locate_ok hq, ?_⟩
  -- What has been written is a file, and no folder has been made.
  rw [hnode]
  by_cases hsame : q = place
  · rw [if_pos hsame]
    exact nofun
  · rwa [if_neg hsame]

end Disk

/-- **One report.**  Its file can be read afterwards, and the folder takes reports as before. -/
theorem Stripper.takes_publish {s : Stripper} {folder : Path}
    (hfolder : s.config.settings.logPath = some folder) {r : Report} {today : Date} {d : Disk}
    {names : List String} (htakes : d.Takes folder names) (hname : r.fileName today ∈ names) :
    (s.publish r today d).value.Takes folder names ∧
      (r.isEmpty = false →
        (s.publish r today d).value.read (folder.join ⟨r.fileName today⟩) = .ok r.text) := by
  cases hempty : r.isEmpty with
  | true =>
    rw [s.value_publish_of_isEmpty hempty]
    exact ⟨htakes, nofun⟩
  | false =>
    obtain ⟨d', hwrite⟩ := (htakes.writable _ hname).write r.text
    have hpublish : (s.publish r today d).value = d' := by
      rw [value_publish, hfolder]
      dsimp only
      rw [Report.value_save hempty, htakes.made]
      dsimp only
      rw [hwrite]
    rw [hpublish]
    refine ⟨htakes.of_write (r.isName_fileName today) hwrite, fun _ => ?_⟩
    exact Disk.read_of_write hwrite (.refl (fun _ => False) d') fun _ _ => id

/-! ### Builds -/

/-- A build from its preparation to its report.  The stripper may be in any state, also in the one
that an earlier build has left it in. -/
structure BuildRun where
  stripper : Stripper
  host : Host
  assetBundles : Bool
  steps : List BuildStep
  buildTime : Nat
  today : Date

namespace BuildRun

/-- The stripper as it is prepared for the build. -/
def prepared [Pattern.Capacity] (r : BuildRun) (d : Disk) : Stripper :=
  (r.stripper.prepare d r.host r.assetBundles).value.2

/-- Does the build: its report, and the disk afterwards. -/
def perform [Pattern.Capacity] (r : BuildRun) (d : Disk) : Logged (Option Report × Disk) := do
  let (_, s) ← r.stripper.prepare d r.host r.assetBundles
  let (_, s) ← s.advanceAll r.steps
  let (report, _, d) ← s.finalize r.buildTime r.today d
  return (report, d)

/-- Does builds one after the other. -/
def performAll [Pattern.Capacity] : List BuildRun → Disk → Logged Disk
  | [], d => pure d
  | r :: rs, d => do
    let (_, d) ← r.perform d
    performAll rs d

/-- The name of the file for the report. -/
def fileName (r : BuildRun) : String :=
  (Report.ofTally {} 0 {} (.ofFlag r.assetBundles)).fileName r.today

/-- The report, if the build is done with an engine. -/
def report (r : BuildRun) (e : Engine) : Report :=
  .ofTally (.ofRecords ((BuildStep.calls r.steps).map e.recordOfCall)) r.buildTime
    r.stripper.reportOptions (.ofFlag r.assetBundles)

variable {folder : Path} {d : Disk}

theorem fileName_report (r : BuildRun) (e : Engine) : (r.report e).fileName r.today = r.fileName :=
  Report.fileName_inj.mpr ⟨rfl, rfl⟩

theorem isName_fileName (r : BuildRun) : Path.IsName r.fileName := Report.isName_fileName _ _

theorem fileName_eq_iff {r r' : BuildRun} :
    r.fileName = r'.fileName ↔ r.today = r'.today ∧ r.assetBundles = r'.assetBundles := by
  have hkind : BuildKind.ofFlag r.assetBundles = .ofFlag r'.assetBundles ↔
      r.assetBundles = r'.assetBundles := by
    cases r.assetBundles <;> cases r'.assetBundles <;> decide
  rw [fileName, fileName, Report.fileName_inj, and_comm]
  exact and_congr_right' hkind

theorem isEmpty_report {r : BuildRun} (hcalls : BuildStep.calls r.steps ≠ []) (e : Engine) :
    (r.report e).isEmpty = false := by
  show (Tally.entriesOf _).isEmpty = false
  rw [Tally.isEmpty_entriesOf, List.isEmpty_map, Bool.eq_false_iff, Ne, List.isEmpty_iff]
  exact hcalls

variable [Pattern.Capacity]

/-- What has become of the stripper when the steps are done. -/
def built (r : BuildRun) (d : Disk) : Stripper := ((r.prepared d).advanceAll r.steps).value.2

theorem built_eq {r : BuildRun} {e : Engine} (hengine : (r.prepared d).engine = some e) :
    r.built d =
      { config := r.stripper.config, engine := some e
        tally := .ofRecords ((BuildStep.calls r.steps).map e.recordOfCall)
        kind := .ofFlag r.assetBundles } := by
  have hconfig : (r.prepared d).config = r.stripper.config := r.stripper.config_prepare _ _ _
  have hkind : (r.prepared d).kind = .ofFlag r.assetBundles := r.stripper.kind_prepare _ _ _
  rw [← hconfig, ← hkind, ← hengine]
  exact congrArg (·.2) (Stripper.value_advanceAll_prepare hengine r.steps)

/-- **One build.**  Without an engine nothing is written. -/
theorem value_perform (r : BuildRun) (d : Disk) :
    (r.perform d).value =
      match (r.prepared d).engine with
      | none => (none, d)
      | some e => (some (r.report e), (r.stripper.publish (r.report e) r.today d).value) := by
  have hperform : (r.perform d).value =
      (((r.built d).finalize r.buildTime r.today d).value.1,
        ((r.built d).finalize r.buildTime r.today d).value.2.2) := rfl
  rw [hperform]
  rcases hengine : (r.prepared d).engine with - | e
  · have hbuilt : r.built d = r.prepared d := Stripper.value_advanceAll_of_none hengine r.steps
    rw [hbuilt, Stripper.value_finalize_of_none hengine]
  · rw [built_eq hengine, Stripper.value_finalize rfl]
    rfl

section

variable {r : BuildRun} (hfolder : r.stripper.config.settings.logPath = some folder)

include hfolder

theorem grows_perform (d : Disk) :
    Grows ((r.perform d).value.2.Among [folder.join ⟨r.fileName⟩]) d (r.perform d).value.2 := by
  rw [value_perform]
  cases (r.prepared d).engine with
  | none => exact .refl _ _
  | some e =>
    have hgrows := r.stripper.grows_publish (r.report e) r.today d
    rw [Settings.reportPath?, hfolder] at hgrows
    exact hgrows

theorem takes_perform {names : List String} (htakes : d.Takes folder names)
    (hname : r.fileName ∈ names) : (r.perform d).value.2.Takes folder names := by
  rw [value_perform]
  cases (r.prepared d).engine with
  | none => exact htakes
  | some e =>
    rw [← r.fileName_report e] at hname
    exact (Stripper.takes_publish hfolder htakes hname).1

/-- **The report on one build** can be read after it. -/
theorem read_perform {names : List String} (htakes : d.Takes folder names)
    (hname : r.fileName ∈ names) {e : Engine} (hengine : (r.prepared d).engine = some e)
    (hcalls : BuildStep.calls r.steps ≠ []) :
    (r.perform d).value.1 = some (r.report e) ∧
      (r.perform d).value.2.read (folder.join ⟨r.fileName⟩) = .ok (r.report e).text := by
  rw [value_perform, hengine, ← r.fileName_report e]
  rw [← r.fileName_report e] at hname
  exact ⟨rfl, (Stripper.takes_publish hfolder htakes hname).2 (isEmpty_report hcalls e)⟩

end

theorem value_performAll_append (rs rs' : List BuildRun) (d : Disk) :
    (performAll (rs ++ rs') d).value = (performAll rs' (performAll rs d).value).value := by
  induction rs generalizing d with
  | nil => rfl
  | cons r rs ih => exact ih (r.perform d).value.2

/-- **Any builds** write their own reports and nothing else. -/
theorem grows_performAll {rs : List BuildRun}
    (hfolder : ∀ r ∈ rs, r.stripper.config.settings.logPath = some folder) (d : Disk) :
    Grows ((performAll rs d).value.Among (rs.map fun r => folder.join ⟨r.fileName⟩)) d
      (performAll rs d).value := by
  induction rs generalizing d with
  | nil => exact .refl _ _
  | cons r rs ih =>
    rw [List.forall_mem_cons] at hfolder
    exact (grows_perform hfolder.1 d).trans_among (ih hfolder.2 (r.perform d).value.2)

/-- **After any builds** the folder takes reports as before. -/
theorem takes_performAll {rs : List BuildRun} {names : List String} (htakes : d.Takes folder names)
    (hfolder : ∀ r ∈ rs, r.stripper.config.settings.logPath = some folder)
    (hnames : ∀ r ∈ rs, r.fileName ∈ names) : (performAll rs d).value.Takes folder names := by
  induction rs generalizing d with
  | nil => exact htakes
  | cons r rs ih =>
    rw [List.forall_mem_cons] at hfolder hnames
    exact ih (takes_perform hfolder.1 htakes hnames.1) hfolder.2 hnames.2

end BuildRun

open BuildRun in
/-- **The last report of each day and kind of build stays.**  Builds are done one after the other,
and their reports go into one folder, which takes them.  After all of them the folder has the whole
report on each build that has processed a pass, unless a later build was of the same kind on the
same day. -/
theorem last_reports_stay [Pattern.Capacity] {folder : Path} {d : Disk} {runs : List BuildRun}
    (hfolder : ∀ r ∈ runs, r.stripper.config.settings.logPath = some folder)
    (htakes : d.Takes folder (runs.map BuildRun.fileName)) (before after : List BuildRun)
    (r : BuildRun) (hruns : runs = before ++ r :: after)
    (hengine : (r.prepared (performAll before d).value).isEnabled = true)
    (hcalls : BuildStep.calls r.steps ≠ [])
    (hlast : ∀ later ∈ after, ¬ (later.today = r.today ∧ later.assetBundles = r.assetBundles)) :
    ∃ report, (r.perform (performAll before d).value).value.1 = some report ∧
      (performAll runs d).value.read (folder.join ⟨report.fileName r.today⟩) = .ok report.text := by
  obtain ⟨e, he⟩ := Option.isSome_iff_exists.mp hengine
  subst hruns
  simp only [List.forall_mem_append, List.forall_mem_cons] at hfolder
  obtain ⟨hbefore, hr, hafter⟩ := hfolder
  have hnamed : ∀ r' ∈ before ++ r :: after, r'.fileName ∈
      (before ++ r :: after).map BuildRun.fileName := fun r' hr' => List.mem_map_of_mem hr'
  have htakes' := takes_performAll htakes hbefore fun r' hr' =>
    hnamed r' (List.mem_append_left _ hr')
  obtain ⟨hreport, hread⟩ := read_perform hr htakes'
    (hnamed r (List.mem_append_right _ List.mem_cons_self)) he hcalls
  refine ⟨r.report e, hreport, ?_⟩
  have hperformed : (performAll (before ++ r :: after) d).value =
      (performAll after (r.perform (performAll before d).value).value.2).value :=
    value_performAll_append before (r :: after) d
  -- The later builds write files of other names.
  have hgrows := grows_performAll hafter (r.perform (performAll before d).value).value.2
  have hapart : ∀ place,
      (performAll after (r.perform (performAll before d).value).value.2).value.locate
          (folder.join ⟨r.fileName⟩) = .ok place →
        ¬ (performAll after (r.perform (performAll before d).value).value.2).value.Among
          (after.map fun r => folder.join ⟨r.fileName⟩) place := by
    rintro place hplace ⟨p, hp, hlocate⟩
    obtain ⟨later, hlater, rfl⟩ := List.mem_map.mp hp
    have hne : r.fileName ≠ later.fileName := fun h =>
      hlast later hlater (fileName_eq_iff.mp h.symm)
    exact Disk.apart_join r.isName_fileName later.isName_fileName hne place hplace hlocate
  rw [r.fileName_report e, hperformed, hgrows.read hapart (by rw [hread]; exact nofun), hread]

/-- A host with one shader. -/
def shoreHost : Host := .ofList [{ name := "Shore" }]

/-- A stripper that strips what is built for one platform and writes its reports into a folder. -/
def shoreStripper : Stripper where
  config := {
    settings := {
      rules := [{ spec := .stripPlatforms [.vulkan] }]
      logPath := some ⟨"log"⟩ } }

/-- A build with one pass on a day in March. -/
def shoreRun (passName : String) (assetBundles : Bool) (day : Nat) : BuildRun where
  stripper := shoreStripper
  host := shoreHost
  assetBundles
  steps := [.pass ⟨shoreHost, ⟨0⟩, ⟨.normal, passName⟩, [⟨["A"], .d3d, .tier1⟩]⟩]
  buildTime := 0
  today := ⟨2024, 3, day⟩

/-- Builds of both kinds on one day, and one on the next day. -/
def shoreRuns : List BuildRun :=
  [shoreRun "P" false 9, shoreRun "Q" true 9, shoreRun "R" false 9, shoreRun "S" false 10]

theorem takes_shoreRuns : ({} : Disk).Takes ⟨"log"⟩ (shoreRuns.map BuildRun.fileName) where
  made := by decide +kernel
  writable name hname := by
    have hplaces : ∀ name ∈ shoreRuns.map BuildRun.fileName,
        (Disk.createFolders {} ⟨"log"⟩).2.locate (Path.join ⟨"log"⟩ ⟨name⟩) = .ok ["log", name] ∧
          (Disk.createFolders {} ⟨"log"⟩).2.node? ["log", name] ≠ some .folder := by
      decide +kernel
    exact ⟨["log", name], hplaces name hname⟩

open BuildRun in
/-- The report on the asset bundles stays when players are built later on. -/
theorem last_reports_stay_shore :
    ({} : Disk).Takes ⟨"log"⟩ (shoreRuns.map BuildRun.fileName) ∧
      ∃ report,
        ((shoreRun "Q" true 9).perform (performAll [shoreRun "P" false 9] {}).value).value.1 =
            some report ∧
          (performAll shoreRuns {}).value.read
            (Path.join ⟨"log"⟩ ⟨report.fileName ⟨2024, 3, 9⟩⟩) = .ok report.text := by
  refine ⟨takes_shoreRuns, ?_⟩
  exact last_reports_stay (by decide) takes_shoreRuns [shoreRun "P" false 9]
    [shoreRun "R" false 9, shoreRun "S" false 10] (shoreRun "Q" true 9) rfl (by decide +kernel)
    (by decide) (by decide)

/-- Two builds of one kind on one day. -/
def shorePair : List BuildRun := [shoreRun "P" false 9, shoreRun "R" false 9]

open BuildRun in
theorem isSome_report_shorePair :
    ((shoreRun "P" false 9).perform {}).value.1.isSome = true ∧
      ((shoreRun "R" false 9).perform
        (performAll [shoreRun "P" false 9] {}).value).value.1.isSome = true := by
  decide +kernel

open BuildRun in
/-- **A report that is replaced.**  After both builds no file has the report on the first one. -/
theorem shore_report_is_replaced :
    (∀ r ∈ shorePair,
        r.stripper.config.settings.logPath = some ⟨"log"⟩ ∧ BuildStep.calls r.steps ≠ []) ∧
      ({} : Disk).Takes ⟨"log"⟩ (shorePair.map fileName) ∧
      ∃ first second,
        ((shoreRun "P" false 9).perform {}).value.1 = some first ∧
        ((shoreRun "R" false 9).perform
          (performAll [shoreRun "P" false 9] {}).value).value.1 = some second ∧
        ∀ p, (performAll shorePair {}).value.read p ≠ .ok first.text := by
  have htakes : ({} : Disk).Takes ⟨"log"⟩ (shorePair.map fileName) := by
    refine ⟨takes_shoreRuns.made, fun name hname => takes_shoreRuns.writable name ?_⟩
    have hsub : shorePair ⊆ shoreRuns := by
      simp [shorePair, shoreRuns]
    exact List.map_subset _ hsub hname
  obtain ⟨hfirst, hsecond⟩ := isSome_report_shorePair
  refine ⟨by decide, htakes, _, _, (Option.some_get hfirst).symm, (Option.some_get hsecond).symm,
    ?_⟩
  intro p hp
  obtain ⟨place, hplace⟩ := Disk.exists_mem_entries_of_read hp
  have hnone : ∀ e ∈ (performAll shorePair {}).value.entries,
      e.2 ≠ .file (Option.get _ isSome_report_shorePair.1).text := by
    decide +kernel
  exact hnone _ hplace rfl

end VariantStrip
