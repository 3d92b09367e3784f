/-
Stripping what has been stripped.

A second strip, of the recorded build that a first one has written, finds everything as the first
one did.  What the first one has written is out of the way of what it has read, except for the
recorded build, and that is read back from its text (`Manifest.parse?_write`).

* `StripSession.start_again` — so the second run starts with the same rules,
* `Manifest.filterVariants_filterVariants` — it has nothing left to strip,
* `StripResult.finish_again` — and its files can be written where the first ones could.

The main result is `strip_again`.
-/
import VariantStrip.Proofs.Accounting
import VariantStrip.Proofs.CatalogFiles
import VariantStrip.Proofs.ManifestText
import VariantStrip.Proofs.Writing

namespace VariantStrip

open Disk (Grows)

/-! ### The start of the second run -/

/-- The files that a run writes: the report, the manifest and the summary. -/
def StripOptions.written (o : StripOptions) (s : Settings) (today : Date) : List Path :=
  (s.reportPath? (.ofFlag o.assetBundles) today).toList ++ o.output.toList ++ o.summary.toList

/-- What a run looks for besides the recorded build, and from which folder: its settings, the config
file also from the folders above the current one, and the catalogs of the enabled rules. -/
inductive StripOptions.LooksFor (o : StripOptions) (config : Path) (c : StripperConfig)
    (here : Place) : Place → Path → Prop
  | settings : LooksFor o config c here here o.settings
  | config {f : Place} (hf : f <+: here) : LooksFor o config c here f config
  | catalog {p : Path} (hp : p ∈ c.catalogPaths) : LooksFor o config c here here p

/-- What a run has looked for is found in the same way later on: it is not among what has been
written, and where there was no config file, or nothing at the path of a catalog, there still is
none. -/
structure StripOptions.Undisturbed (o : StripOptions) (config : Path) (c : StripperConfig)
    (written : Place → Prop) (d d' : Disk) : Prop where
  not_written : ∀ f p, o.LooksFor config c d.current f p →
    ∀ place, (d'.seenFrom f).locate p = .ok place → ¬ written place
  no_config : ∀ f, f <+: d.current →
    (d.seenFrom f).isFile config = false → (d'.seenFrom f).isFile config = false
  no_catalog : ∀ p ∈ c.catalogPaths, d.read p = .error .notFound → d'.read p = .error .notFound

/-- Settings that have been loaded are on the disk. -/
theorem Settings.read_of_load {d : Disk} {p : Path} {s : Settings} (hload : load d p = .ok s) :
    ∃ text, d.read p = .ok text := by
  obtain ⟨format, -, hread⟩ := bind_eq_ok_iff.mp hload
  cases htext : d.read p with
  | ok text => exact ⟨text, rfl⟩
  | error fault =>
    rw [htext] at hread
    cases hread

namespace StripSession

/-- Reading again what has not changed, except for the recorded build. -/
theorem read_again {o : StripOptions} {config : Path} {e : Environment} {d d' : Disk}
    {settings : Settings} {m m' : Manifest} {p : Path} {q : Option Path}
    (hread : read o config e d = .ok (settings, m))
    (hsettings : d'.read o.settings = d.read o.settings)
    (hconfig : d'.readUpwards config = d.readUpwards config)
    (hmanifest : Manifest.load d' p = .ok m') :
    read { o with manifest := p, output := q } config e d' = .ok (settings, m') := by
  have hload : Settings.load d' o.settings = Settings.load d o.settings := by
    rw [Settings.load, Settings.load, hsettings]
  have hoverrides : ReportOverrides.load d' config e o.overrides =
      ReportOverrides.load d config e o.overrides := by
    rw [ReportOverrides.load, ReportOverrides.load, ReportOverrides.fileLayer,
      ReportOverrides.fileLayer, hconfig]
  obtain ⟨loaded, overrides, hloaded, hoverridden, rfl, -⟩ := read_ok hread
  rw [read]
  dsimp only
  rw [hload, hloaded, hoverrides, hoverridden, hmanifest]
  rfl

theorem start_of_prepare [Pattern.Capacity] {o : StripOptions} {config : Path} {e : Environment}
    {d : Disk} {settings : Settings} {m : Manifest} {stripper : Stripper}
    (hread : read o config e d = .ok (settings, m))
    (hprepare :
      (Stripper.prepare ⟨stripperConfig o settings, none, {}, .player⟩ d m.host
        o.assetBundles).value = (.ok (), stripper)) :
    (start o config e d).value = .ok ⟨stripper, m.host, m⟩ := by
  unfold start
  rw [hread]
  dsimp only
  rw [Logged.value_bind, hprepare]
  rfl

/-- **The start of the second run.**  It has the rules of the first one, and the recorded build that
is left of the first one. -/
theorem start_again [Pattern.Capacity] {o : StripOptions} {config : Path} {e : Environment}
    {d d' : Disk} {settings : Settings} {session : StripSession} {m' : Manifest} {p : Path}
    {q : Option Path} {written : Place → Prop}
    (hread : read o config e d = .ok (settings, session.manifest))
    (hstart : (start o config e d).value = .ok session) (hgrows : Grows written d d')
    (hundisturbed : o.Undisturbed config (stripperConfig o settings) written d d')
    (hmanifest : Manifest.load d' p = .ok m') (hhost : m'.host = session.manifest.host) :
    (start { o with manifest := p, output := q } config e d').value =
      .ok ⟨session.stripper, session.host, m'⟩ := by
  obtain ⟨hhost', settings', hread', hprepare⟩ := start_ok hstart
  cases hread.symm.trans hread'
  have hself : d'.seenFrom d.current = d' := by rw [← hgrows.current, Disk.seenFrom]
  have hpersists (path : Path)
      (hpath : o.LooksFor config (stripperConfig o settings) d.current d.current path) :
      Disk.Persists (d.read path) (d'.read path) :=
    hgrows.read (hself ▸ hundisturbed.not_written d.current path hpath)
  have hsettings : d'.read o.settings = d.read o.settings := by
    obtain ⟨loaded, -, hloaded, -⟩ := read_ok hread
    obtain ⟨text, htext⟩ := Settings.read_of_load hloaded
    exact hpersists _ .settings (by rw [htext]; exact nofun)
  have hread₂ : read { o with manifest := p, output := q } config e d' = .ok (settings, m') :=
    read_again hread hsettings
      (hgrows.readUpwards (fun f hf => hundisturbed.not_written f config (.config hf))
        hundisturbed.no_config) hmanifest
  have hcatalogs : (stripperConfig o settings).SameCatalogs d d' := by
    intro path hpath
    have hsame : d'.read path = d.read path := by
      by_cases hmissing : d.read path = .error .notFound
      · rw [hmissing, hundisturbed.no_catalog path hpath hmissing]
      · exact hpersists path (.catalog hpath) hmissing
    rw [Catalog.load, Catalog.load, hsame]
  have hprepares := Stripper.value_prepare_congr
    (s := ⟨stripperConfig o settings, none, {}, .player⟩) hcatalogs session.host o.assetBundles
  rw [hprepares, hhost', ← hhost] at hprepare
  rw [start_of_prepare hread₂ hprepare, hhost', hhost]

end StripSession

/-! ### The second run -/

namespace Manifest

/-- What has been filtered once is not filtered any further. -/
theorem filterVariants_filterVariants (m : Manifest) (keep : String → Snippet → Candidate → Bool) :
    (m.filterVariants fun s p => keep s.name p.snippet).filterVariants
        (fun s p => keep s.name p.snippet) =
      m.filterVariants fun s p => keep s.name p.snippet := by
  have hpass (s : ManifestShader) (p : ManifestPass) :
      (p.variants.filter (keep s.name p.snippet)).filter (keep s.name p.snippet) =
        p.variants.filter (keep s.name p.snippet) := by
    rw [List.filter_filter]
    simp only [Bool.and_self]
  simp only [filterVariants, List.map_map, Function.comp_def, ManifestPass.snippet] at hpass ⊢
  simp only [hpass]

theorem host_filterVariants (m : Manifest)
    (keep : ManifestShader → ManifestPass → Candidate → Bool) :
    (m.filterVariants keep).host = m.host := by
  rw [host, host, filterVariants, List.map_map]
  rfl

theorem passCount_filterVariants (m : Manifest)
    (keep : ManifestShader → ManifestPass → Candidate → Bool) :
    (m.filterVariants keep).passCount = m.passCount := by
  simp only [passCount, filterVariants, List.flatMap_map, List.length_flatMap, List.length_map]

end Manifest

namespace StripSession

/-- A report shows passes if there are rules and passes. -/
theorem isEmpty_entries_replayed (session : StripSession) :
    session.replayed.stripper.tally.entries.isEmpty =
      (!session.stripper.isEnabled || session.manifest.passCount == 0) := by
  have hentries : session.replayed.stripper.tally.entries =
      Tally.entriesOf
        (session.stripper.recordsOfWork session.host session.manifest.takeWork.1) := rfl
  rw [hentries, Tally.isEmpty_entriesOf, Stripper.recordsOfWork, Stripper.isEnabled]
  cases session.stripper.engine with
  | none => rfl
  | some e =>
    have hlength : session.manifest.takeWork.1.length = session.manifest.passCount :=
      session.manifest.length_takeWork
    show (e.recordsOfWork session.host session.manifest.takeWork.1).isEmpty =
      (session.manifest.passCount == 0)
    rw [Engine.recordsOfWork, List.isEmpty_map, ← hlength]
    cases session.manifest.takeWork.1 <;> rfl

theorem value_run_of_start [Pattern.Capacity] {o : StripOptions} {config : Path} {e : Environment}
    {d : Disk} {session : StripSession} (hstart : (start o config e d).value = .ok session)
    (sharding : Sharding) (clock : RunClock) :
    (o.run config e sharding clock d).value = (session.replayed.finish o clock d).value := by
  rw [StripOptions.value_run, StripOptions.value_compute, hstart]
  rfl

/-- A run that has started with some settings has them, and reports on its kind of build. -/
theorem stripper_of_start [Pattern.Capacity] {o : StripOptions} {config : Path} {e : Environment}
    {d : Disk} {settings : Settings} {session : StripSession}
    (hread : read o config e d = .ok (settings, session.manifest))
    (hstart : (start o config e d).value = .ok session) :
    session.stripper.config = stripperConfig o settings ∧
      session.stripper.kind = .ofFlag o.assetBundles := by
  obtain ⟨-, settings', hread', hprepare⟩ := start_ok hstart
  cases hread.symm.trans hread'
  obtain ⟨ready, -, hprepared⟩ := Stripper.prepare_ok (congrArg Prod.fst hprepare)
  rw [hprepare] at hprepared
  exact ⟨congrArg Stripper.config hprepared, congrArg Stripper.kind hprepared⟩

/-- The same rules, and what they have left of the recorded build. -/
def rest (session : StripSession) : StripSession :=
  { session with manifest := session.replayed.manifest }

section

variable {session : StripSession} (hhost : session.host = session.manifest.host)

include hhost

theorem host_rest : session.rest.host = session.rest.manifest.host := by
  rw [rest, manifest_replayed hhost, Manifest.host_filterVariants, hhost]

theorem passCount_rest : session.rest.manifest.passCount = session.manifest.passCount := by
  rw [rest, manifest_replayed hhost, Manifest.passCount_filterVariants]

/-- The second run keeps all that it gets. -/
theorem manifest_replayed_rest : session.rest.replayed.manifest = session.replayed.manifest := by
  rw [manifest_replayed (host_rest hhost), rest, manifest_replayed hhost]
  exact Manifest.filterVariants_filterVariants _ fun name snippet =>
    session.stripper.keeps session.host (session.host.handleOf name) snippet

/-- The second run has as many passes, and as many variants as the first one has left. -/
theorem totals_replayed_rest :
    session.rest.replayed.totals =
      { session.replayed.totals with variantsIn := session.replayed.totals.variantsOut } := by
  have hpasses : session.rest.replayed.passes = session.replayed.passes := by
    have hrest := session.rest.manifest.length_takeWork
    rw [passCount_rest hhost, ← session.manifest.length_takeWork] at hrest
    exact hrest
  rw [StripResult.totals, hpasses, manifest_replayed_rest hhost]
  rfl

theorem isEmpty_entries_replayed_rest :
    session.rest.replayed.stripper.tally.entries.isEmpty =
      session.replayed.stripper.tally.entries.isEmpty := by
  rw [isEmpty_entries_replayed, isEmpty_entries_replayed, passCount_rest hhost]
  rfl

end

end StripSession

/-- **Stripping again.**  After a run that has written what it keeps of a recorded build, another
one on what has been written ends well.  The other files and the flags are the same; the clock and
the cut of the work need not be.  The second run strips nothing, and it writes the same text once
more, wherever a file can be written.

What the first run has written is in the way of nothing that the second one looks for
(`StripOptions.Undisturbed`), and the summary is in the way of neither manifest.  The current folder
exists. -/
theorem strip_again [Pattern.Capacity] (o : StripOptions) (config : Path) (e : Environment)
    (sharding sharding' : Sharding) (clock clock' : RunClock) {d d' : Disk} {settings : Settings}
    {manifest : Manifest} {totals : StripTotals} {p q : Path}
    (hhere : d.node? d.current = some .folder)
    (hread : StripSession.read o config e d = .ok (settings, manifest))
    (houtput : o.output = some p)
    (hrun : (o.run config e sharding clock d).value = (.ok totals, d'))
    (hundisturbed : o.Undisturbed config (StripSession.stripperConfig o settings)
      (d'.Among (o.written settings clock.today)) d d')
    (hq : d'.Writable q) (hsummary : ∀ s ∈ o.summary, d'.Apart p s ∧ d'.Apart q s) :
    ∃ text left, d'.read p = .ok text ∧
      ({ o with manifest := p, output := some q }.run config e sharding' clock' d').value =
        (.ok { totals with variantsIn := totals.variantsOut }, left) ∧
      left.read q = .ok text := by
  obtain ⟨session, hstart, -, rfl⟩ := StripOptions.run_ok o config e d (congrArg Prod.fst hrun)
  rw [StripSession.value_run_of_start hstart] at hrun
  obtain ⟨hhost, settings', hread', -⟩ := StripSession.start_ok hstart
  cases hread.symm.trans hread'
  -- What is left of the first run is read, and nothing else that is read has changed.
  have hleft : d'.read p = .ok session.replayed.manifest.write :=
    StripResult.read_of_save houtput (StripResult.save_of_finish hrun)
      fun s hs => (hsummary s hs).1
  have hgrows : Grows (d'.Among (o.written settings clock.today)) d d' := by
    obtain ⟨hconfig, hkind⟩ := StripSession.stripper_of_start hread hstart
    have hsettings : session.stripper.config.settings = settings :=
      congrArg StripperConfig.settings hconfig
    have hgrown := StripResult.grows_finish houtput hrun
    rw [StripOptions.written, houtput, ← hsettings, ← hkind]
    exact hgrown
  have hstart' : (StripSession.start { o with manifest := p, output := some q } config e d').value =
      .ok session.rest :=
    StripSession.start_again hread hstart hgrows hundisturbed (Manifest.load_of_read hleft)
      ((StripSession.host_rest hhost).symm.trans hhost)
  obtain ⟨left, hfinish, hwritten⟩ := session.replayed.finish_again session.rest.replayed rfl rfl
    (StripSession.isEmpty_entries_replayed_rest hhost) hhere houtput hrun hq
    (fun s hs => (hsummary s hs).2) { o with manifest := p, output := some q } rfl rfl clock'
  rw [StripSession.totals_replayed_rest hhost] at hfinish
  rw [StripSession.manifest_replayed_rest hhost] at hwritten
  refine ⟨session.replayed.manifest.write, left, hleft, ?_, hwritten⟩
  rw [StripSession.value_run_of_start hstart', hfinish]

/-! ### Small disks -/

/-- Two paths that lead to different places lie apart. -/
theorem Disk.apart_of_ne {d : Disk} {p q : Path} (hne : d.locate p ≠ d.locate q) : d.Apart p q :=
  fun _ hp hq => hne (hp.trans hq.symm)

/-- What is looked for from the root lies apart from what is written. -/
theorem StripOptions.not_written_of_forall {o : StripOptions} {config : Path} {c : StripperConfig}
    {ps : List Path} {d d' : Disk} (hroot : d.current = [])
    (hne : ∀ p ∈ o.settings :: config :: c.catalogPaths, ∀ w ∈ ps,
      (d'.seenFrom []).locate p ≠ d'.locate w) :
    ∀ f p, o.LooksFor config c d.current f p →
      ∀ place, (d'.seenFrom f).locate p = .ok place → ¬ d'.Among ps place := by
  rintro f p hlooks place hplace ⟨w, hw, hlocate⟩
  rw [hroot] at hlooks
  have hf : f = [] := by
    cases hlooks with
    | config hf => exact List.prefix_nil.mp hf
    | _ => rfl
  refine hne p ?_ w hw (by rw [hlocate, ← hplace, hf])
  cases hlooks with
  | settings => exact List.mem_cons_self
  | config => exact List.mem_cons_of_mem _ List.mem_cons_self
  | catalog hp => exact List.mem_cons_of_mem _ (List.mem_cons_of_mem _ hp)

/-- A strip with a summary. -/
def coveOptions (summary : Path) : StripOptions where
  settings := ⟨"s.json"⟩
  manifest := ⟨"m.json"⟩
  overrides := { logDir := some ⟨"log"⟩ }
  output := some ⟨"out.json"⟩
  summary := some summary

/-- How the strip ends. -/
def coveRun (d : Disk) (summary config : Path) : Except CommandError StripTotals × Disk :=
  ((coveOptions summary).run config [] .byHalves ⟨⟨2024, 2, 29⟩, 0, 0⟩ d).value

/-- How a strip of what has been written ends, on the next day. -/
def coveAgain (d : Disk) (summary config : Path) : Except CommandError StripTotals × Disk :=
  ({ coveOptions summary with manifest := ⟨"out.json"⟩, output := some ⟨"new.json"⟩ }.run config []
    .byHalves ⟨⟨2024, 3, 1⟩, 0, 0⟩ (coveRun d summary config).2).value

/-- What `strip_again` asks for, except that nothing has come where there was nothing. -/
structure CoveReady (d : Disk) (settings : Settings) (manifest : Manifest) (totals : StripTotals)
    (summary config : Path) : Prop where
  here : d.node? d.current = some .folder
  read : StripSession.read (coveOptions summary) config [] d = .ok (settings, manifest)
  run : ((coveOptions summary).run config [] .byHalves ⟨⟨2024, 2, 29⟩, 0, 0⟩ d).value =
    (.ok totals, (coveRun d summary config).2)
  not_written : ∀ f p, (coveOptions summary).LooksFor config
      (StripSession.stripperConfig (coveOptions summary) settings) d.current f p →
    ∀ place, ((coveRun d summary config).2.seenFrom f).locate p = .ok place →
      ¬ (coveRun d summary config).2.Among
        ((coveOptions summary).written settings ⟨2024, 2, 29⟩) place
  writable : (coveRun d summary config).2.Writable ⟨"new.json"⟩
  apart : (⟨"new.json"⟩ :: (coveOptions summary).written settings ⟨2024, 2, 29⟩).Pairwise
    (coveRun d summary config).2.Apart

theorem CoveReady.apart_summary {d : Disk} {settings : Settings} {manifest : Manifest}
    {totals : StripTotals} {summary config : Path}
    (h : CoveReady d settings manifest totals summary config) :
    ∀ s ∈ (coveOptions summary).summary, (coveRun d summary config).2.Apart ⟨"out.json"⟩ s ∧
      (coveRun d summary config).2.Apart ⟨"new.json"⟩ s := by
  rintro s ⟨⟩
  obtain ⟨hnew, hwritten⟩ := List.pairwise_cons.mp h.apart
  have hlast := (List.pairwise_append.mp hwritten).2.2
  refine ⟨hlast _ ?_ _ List.mem_cons_self, hnew _ ?_⟩
  · exact List.mem_append_right _ List.mem_cons_self
  · exact List.mem_append_right _ List.mem_cons_self

/-- The conditions as they can be computed, for a disk that is seen from its root. -/
def coveCheck (d : Disk) (settings : Settings) (manifest : Manifest) (totals : StripTotals)
    (summary config : Path) : Bool :=
  let left := (coveRun d summary config).2
  let looked := (coveOptions summary).settings :: config ::
    (StripSession.stripperConfig (coveOptions summary) settings).catalogPaths
  let written := (coveOptions summary).written settings ⟨2024, 2, 29⟩
  StripSession.read (coveOptions summary) config [] d = .ok (settings, manifest) &&
    (coveRun d summary config).1 = .ok totals &&
    looked.all (fun p => written.all fun w => (left.seenFrom []).locate p ≠ left.locate w) &&
    left.locate ⟨"new.json"⟩ = .ok ["new.json"] && left.node? ["new.json"] = none &&
    (⟨"new.json"⟩ :: written).Pairwise fun p q => left.locate p ≠ left.locate q

theorem coveReady_of_check {d : Disk} {settings : Settings} {manifest : Manifest}
    {totals : StripTotals} {summary config : Path} (hroot : d.current = [])
    (hcheck : coveCheck d settings manifest totals summary config = true) :
    CoveReady d settings manifest totals summary config := by
  simp only [coveCheck, Bool.and_eq_true, decide_eq_true_eq, List.all_eq_true] at hcheck
  obtain ⟨⟨⟨⟨⟨hread, hrun⟩, hlooks⟩, hplace⟩, hnode⟩, hapart⟩ := hcheck
  exact {
    here := by rw [hroot, Disk.node?_nil]
    read := hread
    run := Prod.ext hrun rfl
    not_written := StripOptions.not_written_of_forall hroot hlooks
    writable := ⟨["new.json"], hplace, by rw [hnode]; exact nofun⟩
    apart := hapart.imp Disk.apart_of_ne }

/-- A disk with settings that name a catalog that is not there, and with a recorded build. -/
def coveDisk : Disk where
  entries := [
    (["s.json"], .file (
      "\x7b\"rules\":[" ++
      "\x7b\"rule\":\x7b\"StripPlatforms\":\x7b\"platforms\":[\"PS4\"]\x7d\x7d\x7d," ++
      "\x7b\"rule\":\x7b\"IncludeVariantCatalog\":\x7b\"catalogs\":[\"cat.json\"]," ++
      "\"only_strip_shaders_in_collections\":true\x7d\x7d\x7d]\x7d")),
    (["m.json"], .file (
      "\x7b\"shaders\":[\x7b\"name\":\"Cove\",\"passes\":[\x7b\"pass_type\":\"Normal\"," ++
      "\"variants\":[\x7b\"platform\":\"PS5\"\x7d,\x7b\"platform\":\"PS4\"\x7d]\x7d]\x7d]\x7d"))]

/-- What the settings say, with the folder for reports. -/
def coveSettings : Settings where
  rules := [
    { spec := .stripPlatforms [.ps4] },
    { spec := .includeVariantCatalog {
        catalogs := [⟨"cat.json"⟩]
        onlyStripListedShaders := true } }]
  logPath := some ⟨"log"⟩

/-- What is recorded of the build. -/
def coveManifest : Manifest where
  shaders := [{
    name := "Cove"
    passes := [{ passType := .normal, variants := [⟨[], .ps5, .tier1⟩, ⟨[], .ps4, .tier1⟩] }] }]

theorem strip_again_cove :
    CoveReady coveDisk coveSettings coveManifest ⟨1, 2, 1, true⟩ ⟨"log/sum.json"⟩ ⟨"none.toml"⟩ ∧
      ∃ text left,
        (coveRun coveDisk ⟨"log/sum.json"⟩ ⟨"none.toml"⟩).2.read ⟨"out.json"⟩ = .ok text ∧
        coveAgain coveDisk ⟨"log/sum.json"⟩ ⟨"none.toml"⟩ = (.ok ⟨1, 1, 1, true⟩, left) ∧
        left.read ⟨"new.json"⟩ = .ok text := by
  obtain ⟨hcheck, hconfig, hcatalog⟩ :
      coveCheck coveDisk coveSettings coveManifest ⟨1, 2, 1, true⟩ ⟨"log/sum.json"⟩ ⟨"none.toml"⟩ =
          true ∧
        ((coveRun coveDisk ⟨"log/sum.json"⟩ ⟨"none.toml"⟩).2.seenFrom []).isFile ⟨"none.toml"⟩ =
          false ∧
        (coveRun coveDisk ⟨"log/sum.json"⟩ ⟨"none.toml"⟩).2.read ⟨"cat.json"⟩ =
          .error .notFound := by
    decide +kernel
  have hready := coveReady_of_check rfl hcheck
  have houtput : (coveOptions ⟨"log/sum.json"⟩).output = some ⟨"out.json"⟩ := rfl
  have hundisturbed : (coveOptions ⟨"log/sum.json"⟩).Undisturbed ⟨"none.toml"⟩
      (StripSession.stripperConfig (coveOptions ⟨"log/sum.json"⟩) coveSettings)
      ((coveRun coveDisk ⟨"log/sum.json"⟩ ⟨"none.toml"⟩).2.Among
        ((coveOptions ⟨"log/sum.json"⟩).written coveSettings ⟨2024, 2, 29⟩))
      coveDisk (coveRun coveDisk ⟨"log/sum.json"⟩ ⟨"none.toml"⟩).2 := by
    refine ⟨hready.not_written, fun f hf _ => ?_, fun p hp _ => ?_⟩
    · cases List.prefix_nil.mp hf
      exact hconfig
    · cases List.mem_singleton.mp hp
      exact hcatalog
  have hagain := strip_again (coveOptions ⟨"log/sum.json"⟩) ⟨"none.toml"⟩ [] .byHalves .byHalves
    ⟨⟨2024, 2, 29⟩, 0, 0⟩ ⟨⟨2024, 3, 1⟩, 0, 0⟩ hready.here hready.read houtput hready.run
    hundisturbed hready.writable hready.apart_summary
  rw [coveAgain]
  exact ⟨hready, hagain⟩

/-- A disk with a catalog that is not there, a build without passes and a config file that is not
valid. -/
def shoalDisk : Disk where
  entries := [
    (["s.json"], .file (
      "\x7b\"rules\":[\x7b\"rule\":\x7b\"IncludeVariantCatalog\":" ++
      "\x7b\"catalogs\":[\"cat.json\"]\x7d\x7d\x7d]\x7d")),
    (["m.json"], .file "\x7b\"shaders\":[\x7b\"name\":\"Shoal\"\x7d]\x7d"),
    (["c.toml"], .file "log_dir = 1")]

/-- What the settings say, with the folder for reports. -/
def shoalSettings : Settings where
  rules := [{ spec := .includeVariantCatalog { catalogs := [⟨"cat.json"⟩] } }]
  logPath := some ⟨"log"⟩

/-- **A folder where there was no catalog.**  The first run makes it for its summary, and the second
one takes it for the catalog and fails. -/
theorem strip_again_fails_of_folder :
    CoveReady shoalDisk shoalSettings ⟨[{ name := "Shoal" }]⟩ ⟨0, 0, 0, true⟩
        ⟨"cat.json/sum.json"⟩ ⟨"none.toml"⟩ ∧
      (coveAgain shoalDisk ⟨"cat.json/sum.json"⟩ ⟨"none.toml"⟩).1 =
        .error (.strip (.catalog (.file .isFolder))) := by
  obtain ⟨hcheck, hfails⟩ :
      coveCheck shoalDisk shoalSettings ⟨[{ name := "Shoal" }]⟩ ⟨0, 0, 0, true⟩
          ⟨"cat.json/sum.json"⟩ ⟨"none.toml"⟩ = true ∧
        (coveAgain shoalDisk ⟨"cat.json/sum.json"⟩ ⟨"none.toml"⟩).1 =
          .error (.strip (.catalog (.file .isFolder))) := by
    decide +kernel
  exact ⟨coveReady_of_check rfl hcheck, hfails⟩

/-- A config file where there was none: the first run makes a folder that two dots leave again, and
the second one finds a file behind them. -/
example :
    coveCheck shoalDisk shoalSettings ⟨[{ name := "Shoal" }]⟩ ⟨0, 0, 0, true⟩
        ⟨"x/sum.json"⟩ ⟨"x/../c.toml"⟩ = true ∧
      (coveAgain shoalDisk ⟨"x/sum.json"⟩ ⟨"x/../c.toml"⟩).1 = .error (.config .wrongKind) := by
  decide +kernel

end VariantStrip
