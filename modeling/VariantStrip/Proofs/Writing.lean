/-
What a strip writes.

A run that ends well has written its report, its manifest and its summary, and has made the folders
for them.  It has changed nothing else (`StripResult.grows_finish`).  A report that is empty is left
out, and it does not matter if one cannot be written.

All of it can be written once more on a disk that has grown since, and the manifest even at another
place (`StripResult.finish_again`):

* `Stripper.not_folder_publish_again` — the second report makes no folders,
* `saveSummary_again` — the second summary goes where the first one did.
-/
import VariantStrip.Proofs.BuildRun
import VariantStrip.Proofs.DiskGrowth
import VariantStrip.Proofs.Replay

namespace VariantStrip

open Disk (Grows)

/-! ### The report -/

namespace Report

/-- Writing a report that is not empty. -/
theorem value_save {r : Report} (hr : r.isEmpty = false) (folder : Path) (today : Date) (d : Disk) :
    (r.save folder today d).value.2 =
      match (d.createFolders folder).1 with
      | .error _ => (d.createFolders folder).2
      | .ok () =>
        match (d.createFolders folder).2.write (folder.join ⟨r.fileName today⟩) r.text with
        | .ok d => d
        | .error _ => (d.createFolders folder).2 := by
  rw [save, if_neg (by rw [hr]; exact Bool.false_ne_true)]
  generalize d.createFolders folder = made
  obtain ⟨outcome, d'⟩ := made
  cases outcome with
  | error fault => rfl
  | ok u =>
    dsimp only
    cases d'.write (folder.join ⟨r.fileName today⟩) r.text <;> rfl

/-- Writing a report makes folders, and then writes one file or none. -/
theorem grows_save {r : Report} (hr : r.isEmpty = false) (folder : Path) (today : Date) (d : Disk) :
    Grows ((r.save folder today d).value.2.Among [folder.join ⟨r.fileName today⟩])
      (d.createFolders folder).2 (r.save folder today d).value.2 := by
  rw [value_save hr]
  cases (d.createFolders folder).1 with
  | error fault => exact .refl _ _
  | ok u =>
    dsimp only
    cases hwrite : (d.createFolders folder).2.write (folder.join ⟨r.fileName today⟩) r.text with
    | error fault => exact .refl _ _
    | ok d' => exact Disk.grows_write hwrite

end Report

/-- Where a report on a kind of build goes, if anywhere. -/
def Settings.reportPath? (s : Settings) (kind : BuildKind) (today : Date) : Option Path :=
  s.logPath.map fun folder => folder.join ⟨(Report.ofTally {} 0 {} kind).fileName today⟩

namespace Stripper

theorem value_publish (s : Stripper) (r : Report) (today : Date) (d : Disk) :
    (s.publish r today d).value =
      match s.config.settings.logPath with
      | none => d
      | some folder => (r.save folder today d).value.2 := by
  rw [publish]
  cases s.config.settings.logPath with
  | none => rfl
  | some folder =>
    simp only [Logged.value_bind]
    generalize (r.save folder today d).value = saved
    obtain ⟨outcome, d'⟩ := saved
    rcases outcome with cause | - | path <;> rfl

theorem grows_publish (s : Stripper) (r : Report) (today : Date) (d : Disk) :
    Grows ((s.publish r today d).value.Among (s.config.settings.reportPath? r.kind today).toList) d
      (s.publish r today d).value := by
  cases hr : r.isEmpty with
  | true =>
    rw [s.value_publish_of_isEmpty hr]
    exact .refl _ _
  | false =>
    rw [value_publish, Settings.reportPath?]
    cases s.config.settings.logPath with
    | none => exact .refl _ _
    | some folder => exact (Disk.grows_makeFolders d _).trans (Report.grows_save hr folder today d)

/-- **The second report.**  When it is written on a disk that has grown since the first one was, no
folder is made. -/
theorem not_folder_publish_again {s : Stripper} {r r' : Report} {today : Date} {d d' : Disk}
    {written : Place → Prop} (hhere : d.node? d.current = some .folder)
    (hgrows : Grows written (s.publish r today d).value d') (hr : r'.isEmpty = r.isEmpty)
    (today' : Date) {place : Place} (hplace : d'.node? place ≠ some .folder) :
    (s.publish r' today' d').value.node? place ≠ some .folder := by
  cases hempty : r.isEmpty with
  | true =>
    rw [s.value_publish_of_isEmpty (hr.trans hempty)]
    exact hplace
  | false =>
    rw [value_publish] at hgrows ⊢
    cases hfolder : s.config.settings.logPath with
    | none => exact hplace
    | some folder =>
      rw [hfolder] at hgrows
      have hgrown : Grows (fun _ => True) (d.createFolders folder).2 d' :=
        ((Report.grows_save hempty folder today d).mono fun _ _ => trivial).trans
          (hgrows.mono fun _ _ => trivial)
      have hsame : (d'.createFolders folder).2 = d' := (Disk.makeFolders_again hhere hgrown).1
      dsimp only
      rw [Report.value_save (hr.trans hempty), hsame]
      cases (d'.createFolders folder).1 with
      | error fault => exact hplace
      | ok u =>
        dsimp only
        cases hwrite : d'.write (folder.join ⟨r'.fileName today'⟩) r'.text with
        | error fault => exact hplace
        | ok d'' =>
          obtain ⟨q, -, -, -, hnode⟩ := Disk.write_ok hwrite
          dsimp only
          rw [hnode]
          by_cases hq : place = q
          · rw [if_pos hq]
            exact nofun
          · rwa [if_neg hq]

end Stripper

/-! ### The manifest and the summary -/

theorem saveSummary_ok {r : Report} {p : Path} {d d' : Disk}
    (hok : saveSummary r p d = (.ok (), d')) :
    (d.createFolders (p.parent?.getD ⟨""⟩)).1 = .ok () ∧
      (d.createFolders (p.parent?.getD ⟨""⟩)).2.write p (Json.write r.tree ++ "\n") = .ok d' := by
  rw [saveSummary] at hok
  generalize d.createFolders (p.parent?.getD ⟨""⟩) = made at hok ⊢
  obtain ⟨outcome, d₁⟩ := made
  cases outcome with
  | error fault => cases hok
  | ok u =>
    dsimp only at hok ⊢
    cases hwrite : d₁.write p (Json.write r.tree ++ "\n") with
    | error fault =>
      rw [hwrite] at hok
      cases hok
    | ok d₂ =>
      rw [hwrite] at hok
      cases hok
      exact ⟨rfl, rfl⟩

theorem grows_saveSummary {r : Report} {p : Path} {d d' : Disk}
    (hok : saveSummary r p d = (.ok (), d')) : Grows (d'.Among [p]) d d' :=
  (Disk.grows_makeFolders d _).trans (Disk.grows_write (saveSummary_ok hok).2)

/-- **The second summary.**  It can be written on a disk that has grown since the first one was. -/
theorem saveSummary_again {r r' : Report} {p : Path} {d d' d'' : Disk} {written : Place → Prop}
    (hhere : d.node? d.current = some .folder) (hok : saveSummary r p d = (.ok (), d'))
    (hgrows : Grows written d' d'') : ∃ d₁, saveSummary r' p d'' = (.ok (), d₁) := by
  obtain ⟨hmade, hwrite⟩ := saveSummary_ok hok
  have hgrown : Grows (fun _ => True) (d.createFolders (p.parent?.getD ⟨""⟩)).2 d'' :=
    ((Disk.grows_write hwrite).mono fun _ _ => trivial).trans (hgrows.mono fun _ _ => trivial)
  obtain ⟨hsame, hagain⟩ := Disk.makeFolders_again hhere hgrown
  -- The summary is a file now, so it can be written once more.
  obtain ⟨place, hplace, -, -, hnode⟩ := Disk.write_ok hwrite
  have hwritable : d''.Writable p := by
    obtain ⟨n, hn, hfile⟩ := hgrows.not_folder (n := .file _) (by rw [hnode, if_pos rfl]) nofun
    refine ⟨place, hgrown.locate_ok hplace, ?_⟩
    rw [hn]
    exact fun h => hfile (Option.some.inj h)
  obtain ⟨d₁, hd₁⟩ := hwritable.write (Json.write r'.tree ++ "\n")
  refine ⟨d₁, ?_⟩
  have hfolders : d''.createFolders (p.parent?.getD ⟨""⟩) = (.ok (), d'') :=
    Prod.ext (hagain.mpr hmade) hsame
  rw [saveSummary, hfolders]
  dsimp only
  rw [hd₁]

/-- Writes the summary, if there is one and it is asked for. -/
def summarize : Option Path → Option Report → Disk → Except CommandError Unit × Disk
  | some p, some report, d => saveSummary report p d
  | _, _, d => (.ok (), d)

/-- A summary is written where it is asked for, and only if there is a report. -/
theorem grows_summarize {p : Option Path} {report : Option Report} {d d' : Disk}
    (hok : summarize p report d = (.ok (), d')) :
    Grows (fun place => report.isSome = true ∧ d'.Among p.toList place) d d' := by
  rcases p with - | p
  · cases hok
    exact .refl _ _
  · rcases report with - | report
    · cases hok
      exact .refl _ _
    · exact (grows_saveSummary hok).mono fun place hplace => ⟨rfl, hplace⟩

theorem locate_of_summarize {p : Path} {report : Option Report} {d d' : Disk}
    (hok : summarize (some p) report d = (.ok (), d')) (hreport : report.isSome = true) :
    ∃ place, d'.locate p = .ok place := by
  obtain ⟨report, rfl⟩ := Option.isSome_iff_exists.mp hreport
  have hwrite := (saveSummary_ok hok).2
  obtain ⟨place, hplace, -⟩ := Disk.write_ok hwrite
  exact ⟨place, (Disk.grows_write hwrite).locate_ok hplace⟩

theorem summarize_again {p : Option Path} {report report' : Option Report} {d d' d'' : Disk}
    {written : Place → Prop} (hhere : d.node? d.current = some .folder)
    (hok : summarize p report d = (.ok (), d')) (hgrows : Grows written d' d'')
    (hreport : report'.isSome = report.isSome) : ∃ d₁, summarize p report' d'' = (.ok (), d₁) := by
  rcases p with - | p
  · exact ⟨d'', rfl⟩
  · rcases report with - | report <;> rcases report' with - | report'
    · exact ⟨d'', rfl⟩
    · cases hreport
    · cases hreport
    · exact saveSummary_again hhere hok hgrows

namespace StripResult

theorem save_eq (r : StripResult) {o : StripOptions} {p : Path} (houtput : o.output = some p)
    (report : Option Report) (d : Disk) :
    r.save o report d =
      match d.write p r.manifest.write with
      | .error fault => (.error (.manifest (.file fault)), d)
      | .ok d => summarize o.summary report d := by
  rw [save, houtput]
  dsimp only
  rw [Manifest.save]
  cases d.write p r.manifest.write with
  | error fault => rfl
  | ok d₁ =>
    rcases o.summary with - | q <;> rcases report with - | report <;> rfl

/-- What has been saved: the manifest, and then the summary. -/
theorem save_ok {r : StripResult} {o : StripOptions} {report : Option Report} {d d' : Disk}
    {p : Path} (houtput : o.output = some p) (hok : r.save o report d = (.ok (), d')) :
    ∃ d₁, d.write p r.manifest.write = .ok d₁ ∧ summarize o.summary report d₁ = (.ok (), d') := by
  rw [save_eq r houtput] at hok
  cases hwrite : d.write p r.manifest.write with
  | error fault =>
    rw [hwrite] at hok
    cases hok
  | ok d₁ =>
    rw [hwrite] at hok
    exact ⟨d₁, rfl, hok⟩

/-- The manifest that has been saved is there afterwards, unless the summary takes its place. -/
theorem read_of_save {r : StripResult} {o : StripOptions} {report : Option Report} {d d' : Disk}
    {p : Path} (houtput : o.output = some p) (hok : r.save o report d = (.ok (), d'))
    (hsummary : ∀ q ∈ o.summary, d'.Apart p q) : d'.read p = .ok r.manifest.write := by
  obtain ⟨d₁, hwrite, hsummarize⟩ := save_ok houtput hok
  refine Disk.read_of_write hwrite (grows_summarize hsummarize) fun place hplace hwritten => ?_
  obtain ⟨-, q, hq, hlocate⟩ := hwritten
  exact hsummary q (Option.mem_toList.mp hq) place hplace hlocate

/-! ### The end of a run -/

/-- The report of a run that strips. -/
def fullReport (r : StripResult) (clock : RunClock) : Report :=
  .ofTally (r.stripper.tally.addStripTime clock.stripTime) clock.buildTime r.stripper.reportOptions
    r.stripper.kind

/-- The disk with the report, if there is one. -/
def published (r : StripResult) (clock : RunClock) (d : Disk) : Disk :=
  match r.stripper.engine with
  | none => d
  | some _ => (r.stripper.publish (r.fullReport clock) clock.today d).value

/-- The end of a run writes the report, and then the manifest and the summary. -/
theorem value_finish (r : StripResult) (o : StripOptions) (clock : RunClock) (d : Disk) :
    (r.finish o clock d).value =
      ((r.save o (r.report clock d) (r.published clock d)).1.map fun () => r.totals,
        (r.save o (r.report clock d) (r.published clock d)).2) := by
  have hpublished : r.published clock d =
      ({ r.stripper with tally := r.stripper.tally.addStripTime clock.stripTime }.finalize
        clock.buildTime clock.today d).value.2.2 := by
    rw [published, Stripper.finalize]
    cases r.stripper.engine <;> rfl
  rw [hpublished]
  rfl

theorem isSome_report (r : StripResult) (clock : RunClock) (d : Disk) :
    (r.report clock d).isSome = r.stripper.engine.isSome := by
  rw [report, Stripper.finalize]
  cases r.stripper.engine <;> rfl

theorem save_of_finish {r : StripResult} {o : StripOptions} {clock : RunClock} {d d' : Disk}
    {totals : StripTotals} (hok : (r.finish o clock d).value = (.ok totals, d')) :
    r.save o (r.report clock d) (r.published clock d) = (.ok (), d') := by
  rw [value_finish, Prod.mk.injEq] at hok
  obtain ⟨u, hsave, -⟩ := map_eq_ok_iff.mp hok.1
  exact Prod.ext hsave hok.2

theorem grows_published (r : StripResult) (clock : RunClock) (d : Disk) :
    Grows ((r.published clock d).Among
      (r.stripper.config.settings.reportPath? r.stripper.kind clock.today).toList) d
      (r.published clock d) := by
  rw [published]
  cases r.stripper.engine with
  | none => exact .refl _ _
  | some e => exact r.stripper.grows_publish (r.fullReport clock) clock.today d

/-- **What a run writes**: its report, its manifest and its summary. -/
theorem grows_finish {r : StripResult} {o : StripOptions} {clock : RunClock} {d d' : Disk}
    {totals : StripTotals} {p : Path} (houtput : o.output = some p)
    (hok : (r.finish o clock d).value = (.ok totals, d')) :
    Grows (d'.Among ((r.stripper.config.settings.reportPath? r.stripper.kind clock.today).toList ++
      [p] ++ o.summary.toList)) d d' := by
  obtain ⟨d₁, hwrite, hsummarize⟩ := save_ok houtput (save_of_finish hok)
  exact ((r.grows_published clock d).trans_among (Disk.grows_write hwrite)).trans_among
    ((grows_summarize hsummarize).mono fun _ h => h.2)

section

variable (r r' : StripResult) (hconfig : r'.stripper.config = r.stripper.config)
  (hengine : r'.stripper.engine = r.stripper.engine)
  (hentries : r'.stripper.tally.entries.isEmpty = r.stripper.tally.entries.isEmpty)

include hconfig hengine hentries

/-- The second report makes no folder where a file can be written. -/
theorem writable_published_again {clock : RunClock} {d d' : Disk} {written : Place → Prop}
    (hhere : d.node? d.current = some .folder) (hgrows : Grows written (r.published clock d) d')
    {p : Path} (hp : d'.Writable p) (clock' : RunClock) : (r'.published clock' d').Writable p := by
  obtain ⟨place, hplace, hfile⟩ := hp
  refine ⟨place, (r'.grows_published clock' d').locate_ok hplace, ?_⟩
  rw [published] at hgrows
  rw [published, hengine]
  cases hsome : r.stripper.engine with
  | none => exact hfile
  | some e =>
    have hempty : (r'.fullReport clock').isEmpty = (r.fullReport clock).isEmpty := hentries
    rw [hsome] at hgrows
    dsimp only at hgrows ⊢
    rw [Stripper.value_publish, hconfig, ← Stripper.value_publish]
    exact Stripper.not_folder_publish_again hhere hgrows hempty clock'.today hfile

/-- **The end of the second run.**  Where a run has ended well, another one with the same rules can
end well after it, at any path for the manifest that can be written and is not in the way of the
summary. -/
theorem finish_again {o : StripOptions} {clock : RunClock} {d d' : Disk} {totals : StripTotals}
    {p q : Path} (hhere : d.node? d.current = some .folder) (houtput : o.output = some p)
    (hok : (r.finish o clock d).value = (.ok totals, d')) (hq : d'.Writable q)
    (hapart : ∀ s ∈ o.summary, d'.Apart q s) (o' : StripOptions) (houtput' : o'.output = some q)
    (hsummary : o'.summary = o.summary) (clock' : RunClock) :
    ∃ left, (r'.finish o' clock' d').value = (.ok r'.totals, left) ∧
      left.read q = .ok r'.manifest.write := by
  have hreport : (r'.report clock' d').isSome = (r.report clock d).isSome := by
    rw [isSome_report, isSome_report, hengine]
  obtain ⟨d₁, hwrite, hsummarize⟩ := save_ok houtput (save_of_finish hok)
  have hpublish := r.grows_published clock d
  have hhere₁ : d₁.node? d₁.current = some .folder := by
    rw [(Disk.grows_write hwrite).current, hpublish.current]
    exact (Disk.grows_write hwrite).folder (hpublish.folder hhere)
  -- First the report and the manifest.
  have hgrows : Grows (fun _ => True) (r.published clock d) d' :=
    ((Disk.grows_write hwrite).mono fun _ _ => trivial).trans
      ((grows_summarize hsummarize).mono fun _ _ => trivial)
  obtain ⟨d₂, hwrite'⟩ :=
    (r.writable_published_again r' hconfig hengine hentries hhere hgrows hq clock').write
      r'.manifest.write
  have hgrows' : Grows (fun _ => True) d' d₂ :=
    ((r'.grows_published clock' d').mono fun _ _ => trivial).trans
      ((Disk.grows_write hwrite').mono fun _ _ => trivial)
  -- Then the summary.
  obtain ⟨d₃, hsummarize'⟩ := summarize_again hhere₁ hsummarize hgrows' hreport
  have hsave : r'.save o' (r'.report clock' d') (r'.published clock' d') = (.ok (), d₃) := by
    rw [r'.save_eq houtput', hwrite', hsummary]
    exact hsummarize'
  refine ⟨d₃, by rw [value_finish, hsave]; rfl,
    Disk.read_of_write hwrite' (grows_summarize hsummarize') ?_⟩
  -- The two were apart before, and they still lead to the same places.
  rintro place hplace ⟨hsome, s, hs, hlocate⟩
  replace hs : o.summary = some s := Option.mem_toList.mp hs
  rw [hs] at hsummarize
  obtain ⟨place₁, hlocate₁⟩ := locate_of_summarize hsummarize (hreport ▸ hsome)
  obtain ⟨place₂, hplace₂, -⟩ := hq
  have hgrown : Grows (fun _ => True) d' d₃ :=
    hgrows'.trans ((grows_summarize hsummarize').mono fun _ _ => trivial)
  rw [hgrown.locate_ok hlocate₁] at hlocate
  rw [hgrown.locate_ok hplace₂] at hplace
  cases hlocate
  cases hplace
  exact hapart s hs place hplace₂ hlocate₁

end

end StripResult

end VariantStrip
