/-
Merging catalogs from files into a file.

A merge reads the manifest and the catalogs, and then writes what `Catalog.merge` makes of them:

* `MergeOptions.loadInputs_filter` — catalogs that do not exist leave nothing behind,
* `MergeOptions.writes_of_read` — what has been read is merged and written, and that is all,
* `MergeOptions.run_ok` — a run that succeeds has read the catalogs that exist,
* `MergeOptions.read_again` — a second run finds the manifest as it was, and what the first one has
  written in place of the catalogs.

What has been merged is merged as it is (`Catalog.value_merge_merge`) and read as it was written
(`Catalog.parse_write`), so the second run writes the same text.  The main result is
`merge_files_again`.
-/
import VariantStrip.Command.Merge
import VariantStrip.Proofs.CatalogText
import VariantStrip.Proofs.Merge
import VariantStrip.Proofs.Prepare

namespace VariantStrip

/-- Merging what has been merged changes nothing. -/
theorem Catalog.value_merge_merge (h : Host) (catalogs : List Catalog) :
    (merge h [(merge h catalogs).value]).value = (merge h catalogs).value := by
  rw [value_merge h [_], catalogListings_merge, value_merge h catalogs]
  exact (alike_listings_gathered _).gathered

/-- A catalog that does not exist: its path has the extension of a format, and leads to nothing. -/
def Disk.lacks (d : Disk) (p : Path) : Bool :=
  (Format.ofPath? p).isSome && d.read p == .error .notFound

theorem Catalog.load_of_lacks {d : Disk} {p : Path} (hp : d.lacks p = true) :
    load d p = .ok none := by
  rw [Disk.lacks, Bool.and_eq_true, beq_iff_eq] at hp
  obtain ⟨format, hformat⟩ := Option.isSome_iff_exists.mp hp.1
  rw [load_of_fault hformat hp.2, if_pos rfl]

theorem Manifest.read_of_load {d : Disk} {p : Path} {m : Manifest} (hload : load d p = .ok m) :
    ∃ text, d.read p = .ok text := by
  rw [load] at hload
  cases hread : d.read p with
  | ok text => exact ⟨text, rfl⟩
  | error fault =>
    rw [hread] at hload
    cases hload

namespace MergeOptions

/-! ### Reading -/

/-- Catalogs are loaded as for a build. -/
theorem loadInputs_eq (d : Disk) (ps : List Path) :
    loadInputs d ps = (loadCatalogs d ps).value := by
  rw [value_loadCatalogs]
  induction ps with
  | nil => rfl
  | cons p ps ih =>
    rw [loadInputs, ih, List.mapM_cons]
    cases Catalog.load d p with
    | error cause => rfl
    | ok found => cases ps.mapM (Catalog.load d) <;> cases found <;> rfl

theorem loadInputs_filter (d : Disk) (ps : List Path) :
    loadInputs d (ps.filter fun p => !d.lacks p) = loadInputs d ps := by
  induction ps with
  | nil => rfl
  | cons p ps ih =>
    cases hp : d.lacks p with
    | true =>
      rw [List.filter_cons_of_neg (by simp [hp]), ih, loadInputs, Catalog.load_of_lacks hp]
      cases loadInputs d ps <;> rfl
    | false => rw [List.filter_cons_of_pos (by simp [hp]), loadInputs, loadInputs, ih]

/-- One catalog that does not load is enough. -/
theorem exists_loadInputs_eq_error {d : Disk} {ps : List Path} {p : Path} {cause : LoadError}
    (hp : p ∈ ps) (hload : Catalog.load d p = .error cause) :
    ∃ cause', loadInputs d ps = .error cause' := by
  have hsome : (failure? (loadInputs d ps)).isSome = true := by
    rw [loadInputs_eq, value_loadCatalogs, failure?_map, failure?_mapM, List.findSome?_isSome_iff]
    exact ⟨p, hp, by rw [hload]; rfl⟩
  obtain ⟨cause', hcause'⟩ := Option.isSome_iff_exists.mp hsome
  exact ⟨cause', failure?_eq_some_iff.mp hcause'⟩

theorem read_eq_ok_iff {o : MergeOptions} {d : Disk} {h : Host} {catalogs : List Catalog} :
    o.read d = .ok (h, catalogs) ↔
      ∃ m, Manifest.load d o.manifest = .ok m ∧ loadInputs d o.inputs = .ok catalogs ∧
        m.host = h := by
  have hlast (m : Manifest) (cs : List Catalog) :
      (pure (m.host, cs) : Except CommandError (Host × List Catalog)) = .ok (h, catalogs) ↔
        m.host = h ∧ cs = catalogs := by
    refine ⟨fun heq => ?_, fun ⟨hh, hcs⟩ => by rw [hh, hcs]; rfl⟩
    cases heq
    exact ⟨rfl, rfl⟩
  simp only [read, bind_eq_ok_iff, mapError_eq_ok_iff, hlast]
  constructor
  · rintro ⟨m, hm, cs, hcs, hh, rfl⟩
    exact ⟨m, hm, hcs, hh⟩
  · rintro ⟨m, hm, hcs, hh⟩
    exact ⟨m, hm, catalogs, hcs, hh, rfl⟩

/-! ### Running -/

/-- All that a run does to the disk is writing a text to its output, and if that goes well it
answers with a number. -/
def Writes (o : MergeOptions) (d : Disk) (text : String) (n : Nat) : Prop :=
  (o.run d).value =
    (((d.writeInto o.output text).1.map fun _ => n).mapError fun fault => .load (.file fault),
      (d.writeInto o.output text).2)

theorem Writes.of_ok {o : MergeOptions} {d d' : Disk} {text : String} {n k : Nat}
    (h : o.Writes d text n) (hok : (o.run d).value = (.ok k, d')) :
    k = n ∧ d.writeInto o.output text = (.ok (), d') := by
  rw [Writes, hok] at h
  revert h
  rcases d.writeInto o.output text with ⟨fault | _, d₁⟩
  · exact nofun
  · rintro ⟨⟩
    exact ⟨rfl, rfl⟩

theorem value_run (o : MergeOptions) (d : Disk) :
    (o.run d).value = match o.read d with
      | .error failure => (.error failure, d)
      | .ok (h, catalogs) => o.finish (Catalog.merge h catalogs).value d := by
  rw [run, compute]
  cases o.read d with
  | error failure => rfl
  | ok inputs => simp only [Logged.value_bind, Logged.value_pure]

/-- What has been read is merged and written. -/
theorem writes_of_read {o : MergeOptions} {d : Disk} {h : Host} {catalogs : List Catalog}
    {format : Format} (hread : o.read d = .ok (h, catalogs))
    (hformat : Format.ofPath? o.output = some format) :
    o.Writes d ((Catalog.merge h catalogs).value.write format)
      (Catalog.merge h catalogs).value.variantCount := by
  rw [Writes, value_run, hread]
  dsimp only
  unfold finish
  rw [Catalog.save, Format.require, hformat]
  dsimp only
  rcases d.writeInto o.output _ with ⟨fault | _, d'⟩ <;> rfl

theorem finish_of_unknown {o : MergeOptions} (hformat : Format.ofPath? o.output = none)
    (merged : Catalog) (d : Disk) :
    o.finish merged d = (.error (.load (.unknownFormat o.output)), d) := by
  unfold finish
  rw [Catalog.save, Format.require, hformat]

/-- A run that succeeds has read a manifest and the catalogs that exist. -/
theorem run_ok {o : MergeOptions} {d d' : Disk} {n : Nat} (hok : (o.run d).value = (.ok n, d')) :
    ∃ m format, Manifest.load d o.manifest = .ok m ∧ Format.ofPath? o.output = some format ∧
      o.read d =
        .ok (m.host, o.inputs.filterMap fun p => (Catalog.load d p).toOption.join) := by
  rw [value_run] at hok
  cases hread : o.read d with
  | error failure =>
    rw [hread] at hok
    cases hok
  | ok inputs =>
    obtain ⟨h, catalogs⟩ := inputs
    obtain ⟨m, hm, hcatalogs, rfl⟩ := read_eq_ok_iff.mp hread
    rw [loadInputs_eq] at hcatalogs
    cases hformat : Format.ofPath? o.output with
    | none =>
      rw [hread] at hok
      dsimp only at hok
      rw [finish_of_unknown hformat] at hok
      cases hok
    | some format => exact ⟨m, format, hm, rfl, by rw [loadCatalogs_ok hcatalogs]⟩

/-- A second run reads the manifest of the first one, and what that has written. -/
theorem read_again {o : MergeOptions} {d d' : Disk} {m : Manifest} {format : Format}
    {merged : Catalog} (hm : Manifest.load d o.manifest = .ok m)
    (hformat : Format.ofPath? o.output = some format)
    (hwrite : d.writeInto o.output (merged.write format) = (.ok (), d'))
    (hapart : d'.Apart o.output o.manifest) (q : Path) :
    { o with inputs := [o.output], output := q }.read d' = .ok (m.host, [merged]) := by
  have hsame : d'.read o.manifest = d.read o.manifest := by
    obtain ⟨text, htext⟩ := Manifest.read_of_load hm
    refine (Disk.grows_writeInto hwrite).read ?_ (by rw [htext]; exact nofun)
    rintro place hplace ⟨p, hp, hlocate⟩
    rw [List.mem_singleton.mp hp] at hlocate
    exact hapart place hlocate hplace
  have hmanifest : Manifest.load d' o.manifest = .ok m := by
    rw [Manifest.load, hsame]
    exact hm
  have hload : Catalog.load d' o.output = .ok (some merged) :=
    Catalog.load_of_read hformat (Disk.read_of_writeInto hwrite)
      (Catalog.parse_write format merged)
  refine read_eq_ok_iff.mpr ⟨m, hmanifest, ?_, rfl⟩
  rw [loadInputs, hload]
  rfl

theorem exists_run_eq_error {o : MergeOptions} {d : Disk}
    (hfails : (∃ cause, Manifest.load d o.manifest = .error cause) ∨
      (∃ p ∈ o.inputs, ∃ cause, Catalog.load d p = .error cause) ∨
      Format.ofPath? o.output = none) :
    ∃ failure, (o.run d).value = (.error failure, d) := by
  rw [value_run]
  cases hread : o.read d with
  | error failure => exact ⟨failure, rfl⟩
  | ok inputs =>
    obtain ⟨h, catalogs⟩ := inputs
    obtain ⟨m, hm, hcatalogs, -⟩ := read_eq_ok_iff.mp hread
    rcases hfails with ⟨cause, hcause⟩ | ⟨p, hp, cause, hcause⟩ | hformat
    · rw [hm] at hcause
      cases hcause
    · obtain ⟨cause', hcause'⟩ := exists_loadInputs_eq_error hp hcause
      rw [hcatalogs] at hcause'
      cases hcause'
    · exact ⟨_, finish_of_unknown hformat _ d⟩

end MergeOptions

/-- **Merging files.**  A merge that succeeds leaves a file with what `Catalog.merge` makes of the
catalogs that exist, and answers with the number of variants in it.  Merging that file alone writes
the same text again, wherever it goes in the same format.  Files that do not exist do not matter.
If the manifest or a catalog does not load, or the output has no known extension, nothing is
changed. -/
theorem merge_files_again (o : MergeOptions) (d : Disk) :
    (∀ n d', (o.run d).value = (.ok n, d') →
      ∃ m merged text, Manifest.load d o.manifest = .ok m ∧
        merged = (Catalog.merge m.host
          (o.inputs.filterMap fun p => (Catalog.load d p).toOption.join)).value ∧
        Catalog.load d' o.output = .ok (some merged) ∧ n = merged.variantCount ∧
        d'.read o.output = .ok text ∧ o.Writes d text n ∧
        (d'.Apart o.output o.manifest → ∀ q, Format.ofPath? q = Format.ofPath? o.output →
          { o with inputs := [o.output], output := q }.Writes d' text n ∧
          ∀ k d'', ({ o with inputs := [o.output], output := q }.run d').value = (.ok k, d'') →
            k = n ∧ d''.read q = .ok text)) ∧
    (∀ inputs, (inputs.filter fun p => !d.lacks p) = (o.inputs.filter fun p => !d.lacks p) →
      ({ o with inputs }.run d).value = (o.run d).value) ∧
    ((∃ cause, Manifest.load d o.manifest = .error cause) ∨
      (∃ p ∈ o.inputs, ∃ cause, Catalog.load d p = .error cause) ∨
      Format.ofPath? o.output = none → ∃ failure, (o.run d).value = (.error failure, d)) := by
  refine ⟨fun n d' hok => ?_, fun inputs hinputs => ?_, MergeOptions.exists_run_eq_error⟩
  · obtain ⟨m, format, hm, hformat, hread⟩ := MergeOptions.run_ok hok
    have hwrites := MergeOptions.writes_of_read hread hformat
    obtain ⟨rfl, hwrite⟩ := hwrites.of_ok hok
    have htext := Disk.read_of_writeInto hwrite
    refine ⟨m, _, _, hm, rfl, ?_, rfl, htext, hwrites, fun hapart q hq => ?_⟩
    · exact Catalog.load_of_read hformat htext (Catalog.parse_write format _)
    · have hread' := MergeOptions.read_again hm hformat hwrite hapart q
      have hagain := MergeOptions.writes_of_read hread' (hq.trans hformat)
      rw [Catalog.value_merge_merge] at hagain
      refine ⟨hagain, fun k d'' hok' => ?_⟩
      obtain ⟨hk, hwrite'⟩ := hagain.of_ok hok'
      exact ⟨hk, Disk.read_of_writeInto hwrite'⟩
  · have hread : { o with inputs }.read d = o.read d := by
      have hload : MergeOptions.loadInputs d inputs = MergeOptions.loadInputs d o.inputs := by
        rw [← MergeOptions.loadInputs_filter d inputs, hinputs, MergeOptions.loadInputs_filter]
      rw [MergeOptions.read, MergeOptions.read]
      dsimp only
      rw [hload]
    rw [MergeOptions.value_run, MergeOptions.value_run, hread]
    rfl

/-- A disk with a recorded build, and with catalogs in both formats that list a variant twice. -/
def deltaDisk : Disk where
  entries := [
    (["m.json"], .file (
      "\x7b\"shaders\":[\x7b\"name\":\"Delta\",\"invalid_keywords\":[\"OLD\"]\x7d]\x7d")),
    (["a.ron"], .file (
      "(shaders: [(shader: \"Delta\"," ++
      "variants: [(pass_type: Normal, keywords: [\"B\", \"OLD\", \"A\"])])])")),
    (["b.json"], .file (
      "\x7b\"shaders\":[\x7b\"shader\":\"Delta\",\"variants\":[" ++
      "\x7b\"pass_type\":\"Normal\",\"keywords\":\"A B\"\x7d," ++
      "\x7b\"pass_type\":\"Meta\"\x7d]\x7d]\x7d"))]

/-- A merge of the catalogs into a folder that is not there yet. -/
def deltaMerge : MergeOptions where
  inputs := [⟨"a.ron"⟩, ⟨"b.json"⟩]
  manifest := ⟨"m.json"⟩
  output := ⟨"maps/all.ron"⟩

/-- The folder is made, and the file in it is not the recorded build. -/
theorem exists_deltaMerge_run :
    ∃ d', (deltaMerge.run deltaDisk).value = (.ok 2, d') ∧
      d'.Apart deltaMerge.output deltaMerge.manifest := by
  -- Merging looks things up by their hashes, and gathering does not.
  have hvalue : (deltaMerge.run deltaDisk).value = match deltaMerge.read deltaDisk with
      | .error failure => (.error failure, deltaDisk)
      | .ok (h, catalogs) =>
        deltaMerge.finish (Catalog.gathered (Catalog.catalogListings h catalogs)) deltaDisk := by
    rw [MergeOptions.value_run]
    simp only [Catalog.value_merge]
  have hanswer : (deltaMerge.run deltaDisk).value.1 = .ok 2 := by
    rw [hvalue]
    decide +kernel
  have hplaces : (deltaMerge.run deltaDisk).value.2.locate deltaMerge.output ≠
      (deltaMerge.run deltaDisk).value.2.locate deltaMerge.manifest := by
    rw [hvalue]
    decide +kernel
  generalize (deltaMerge.run deltaDisk).value = r at hanswer hplaces ⊢
  obtain ⟨answer, d'⟩ := r
  cases hanswer
  exact ⟨d', rfl, fun place hplace hplace' => hplaces (hplace.trans hplace'.symm)⟩

/-- A second merge elsewhere, a merge with files that do not exist, and one into an unknown
format. -/
theorem merge_files_again_delta :
    ∃ d' text, (deltaMerge.run deltaDisk).value = (.ok 2, d') ∧
      d'.read deltaMerge.output = .ok text ∧
      (MergeOptions.mk [deltaMerge.output] deltaMerge.manifest ⟨"again.RON"⟩).Writes d' text 2 ∧
      ((MergeOptions.mk [⟨"no.ron"⟩, ⟨"a.ron"⟩, ⟨"no/b.json"⟩, ⟨"b.json"⟩] deltaMerge.manifest
        deltaMerge.output).run deltaDisk).value = (deltaMerge.run deltaDisk).value ∧
      ∃ failure, ((MergeOptions.mk deltaMerge.inputs deltaMerge.manifest ⟨"all.txt"⟩).run
        deltaDisk).value = (.error failure, deltaDisk) := by
  obtain ⟨d', hrun, hapart⟩ := exists_deltaMerge_run
  obtain ⟨hsucceeds, hmissing, -⟩ := merge_files_again deltaMerge deltaDisk
  obtain ⟨-, -, hfails⟩ :=
    merge_files_again ⟨deltaMerge.inputs, deltaMerge.manifest, ⟨"all.txt"⟩⟩ deltaDisk
  obtain ⟨m, merged, text, -, -, -, -, htext, -, hagain⟩ := hsucceeds 2 d' hrun
  obtain ⟨hwrites, -⟩ := hagain hapart ⟨"again.RON"⟩ (by decide +kernel)
  have hunknown : Format.ofPath? ⟨"all.txt"⟩ = none := by decide +kernel
  exact ⟨d', text, hrun, htext, hwrites, hmissing _ (by decide +kernel),
    hfails (.inr (.inr hunknown))⟩

end VariantStrip
