/-
A strip that cannot start.

Before a strip writes anything it reads its settings, the report settings and the recorded build,
and prepares the rules.  What can fail there is settled by two searches, for a filter that does not
compile and for a catalog that does not load:

* `BuiltRule.failure?_ofSpec` and `Engine.failure?_buildRules` — rules fail to be built at the first
  such filter,
* `Engine.failure?_prepareRules` — and fail to be readied at the first such catalog,
* `Stripper.prepare_eq_error_iff` — so preparing fails where `StripperConfig.Refuses` says,
* `StripSession.start_eq_error_iff` — and a strip does where `StripOptions.CannotStart` says.

The main result is `no_trace_without_start`.
-/
import VariantStrip.Proofs.CatalogFiles
import VariantStrip.Proofs.Replay

namespace VariantStrip

/-! ### What is refused -/

/-- The filters of a rule, in the order in which they are compiled. -/
def RuleSpec.filters : RuleSpec → List StringFilter
  | includeShaderName fs | stripShaderName fs | stripShaderPath fs => fs
  | stripKeywords o => o.excludeDevelopment ++ o.excludeRelease
  | stripPasses ps => ps.map (·.shaderName)
  | _ => []

/-- The filters of the enabled rules. -/
def StripperConfig.filters (c : StripperConfig) : List StringFilter :=
  c.settings.enabledRules.flatMap (·.spec.filters)

/-- A filter can be made ready. -/
def StringFilter.Compiles [Pattern.Capacity] (f : StringFilter) :
    Prop := ∃ m, Matcher.ofFilter f = .ok m

/-- Preparing for a build fails with an error: at the first filter that does not compile, or else at
the first catalog that does not load.  A catalog that does not exist is no failure. -/
inductive StripperConfig.Refuses [Pattern.Capacity] (c : StripperConfig) (d : Disk) :
    StripError → Prop
  | pattern {before after : List StringFilter} {f : StringFilter}
      (hfilters : c.filters = before ++ f :: after) (hbefore : ∀ g ∈ before, g.Compiles)
      (hf : ¬ f.Compiles) : Refuses c d (.invalidPattern f.pattern)
  | catalog {before after : List Path} {p : Path} {cause : LoadError}
      (hfilters : ∀ f ∈ c.filters, f.Compiles) (hpaths : c.catalogPaths = before ++ p :: after)
      (hbefore : ∀ q ∈ before, ∃ found, Catalog.load d q = .ok found)
      (hp : Catalog.load d p = .error cause) : Refuses c d (.catalog cause)

/-- A strip fails before it begins: of its settings, the report settings, the recorded build and the
rules the first one that is refused says why. -/
inductive StripOptions.CannotStart [Pattern.Capacity] (o : StripOptions) (config : Path)
    (e : Environment) (d : Disk) :
    CommandError → Prop
  | settings {cause : LoadError} (hsettings : Settings.load d o.settings = .error cause) :
      CannotStart o config e d (.load cause)
  | overrides {settings : Settings} {cause : ConfigError}
      (hsettings : Settings.load d o.settings = .ok settings)
      (hoverrides : ReportOverrides.load d config e o.overrides = .error cause) :
      CannotStart o config e d (.config cause)
  | manifest {settings : Settings} {overrides : ReportOverrides} {cause : ManifestError}
      (hsettings : Settings.load d o.settings = .ok settings)
      (hoverrides : ReportOverrides.load d config e o.overrides = .ok overrides)
      (hmanifest : Manifest.load d o.manifest = .error cause) :
      CannotStart o config e d (.manifest cause)
  | rules {settings : Settings} {overrides : ReportOverrides} {m : Manifest} {cause : StripError}
      (hsettings : Settings.load d o.settings = .ok settings)
      (hoverrides : ReportOverrides.load d config e o.overrides = .ok overrides)
      (hmanifest : Manifest.load d o.manifest = .ok m)
      (hrules : (StripSession.stripperConfig o (overrides.apply settings)).Refuses d cause) :
      CannotStart o config e d (.strip cause)

/-! ### The first filter -/

section

variable [Pattern.Capacity]

/-- A filter that does not compile is refused by its pattern. -/
theorem Matcher.failure?_ofFilter (f : StringFilter) :
    failure? (ofFilter f) = none ∨ failure? (ofFilter f) = some (.invalidPattern f.pattern) := by
  have hcompile (ignoreCase : Bool) (text : List Char) :
      failure? (compile f.pattern ignoreCase text) = none ∨
        failure? (compile f.pattern ignoreCase text) = some (.invalidPattern f.pattern) := by
    rw [compile]
    cases Pattern.compile? ignoreCase text with
    | none => exact .inr rfl
    | some p => exact .inl rfl
  rw [ofFilter]
  cases f.matchType with
  | wildcard => exact hcompile _ _
  | regex => exact hcompile _ _
  | _ => exact .inl rfl

theorem StringFilter.compiles_iff {f : StringFilter} :
    f.Compiles ↔ failure? (Matcher.ofFilter f) = none :=
  failure?_eq_none_iff.symm

theorem StringFilter.failure?_eq_some_iff {f : StringFilter} {cause : StripError} :
    failure? (Matcher.ofFilter f) = some cause ↔
      ¬ f.Compiles ∧ cause = .invalidPattern f.pattern := by
  rw [compiles_iff]
  rcases Matcher.failure?_ofFilter f with hf | hf
  · simp [hf]
  · simp [hf, eq_comm]

/-- The error of the first filter that does not compile. -/
def firstBadFilter? (fs : List StringFilter) : Option StripError :=
  fs.findSome? fun f => failure? (Matcher.ofFilter f)

/-- A rule fails to be built at the first of its filters that does not compile. -/
theorem BuiltRule.failure?_ofSpec (b : BuildContext) (spec : RuleSpec) :
    failure? (ofSpec b spec) = firstBadFilter? spec.filters := by
  have hfilters (fs : List StringFilter) : failure? (Matcher.ofFilters fs) = firstBadFilter? fs :=
    failure?_mapM Matcher.ofFilter fs
  cases spec with
  | includeShaderName fs | stripShaderName fs | stripShaderPath fs =>
    exact (failure?_bind_pure _ _).trans (hfilters fs)
  | stripKeywords o =>
    rw [RuleSpec.filters, firstBadFilter?, List.findSome?_append, ← firstBadFilter?,
      ← firstBadFilter?, ← hfilters, ← hfilters]
    exact failure?_bind fun development => failure?_bind_pure _ _
  | stripPasses ps =>
    have hentries : failure? (ps.mapM fun p => do
        return (← Matcher.ofFilter p.shaderName, p.passType)) =
          firstBadFilter? (ps.map (·.shaderName)) := by
      simp only [failure?_mapM, failure?_bind_pure, firstBadFilter?, List.findSome?_map,
        Function.comp_def]
    exact (failure?_bind_pure _ _).trans hentries
  | _ => rfl

theorem Engine.failure?_buildRules (c : StripperConfig) :
    failure? (buildRules c.build c.settings.rules) = firstBadFilter? c.filters := by
  rw [buildRules, failure?_mapM, StripperConfig.filters, firstBadFilter?, findSome?_flatMap]
  simp only [failure?_bind_pure, BuiltRule.failure?_ofSpec]
  rfl

theorem firstBadFilter?_eq_none_iff {fs : List StringFilter} :
    firstBadFilter? fs = none ↔ ∀ f ∈ fs, f.Compiles := by
  rw [firstBadFilter?, List.findSome?_eq_none_iff]
  simp only [StringFilter.compiles_iff]

theorem firstBadFilter?_eq_some_iff {fs : List StringFilter} {cause : StripError} :
    firstBadFilter? fs = some cause ↔
      ∃ before f after, fs = before ++ f :: after ∧ (∀ g ∈ before, g.Compiles) ∧ ¬ f.Compiles ∧
        cause = .invalidPattern f.pattern := by
  rw [firstBadFilter?, List.findSome?_eq_some_iff]
  simp only [StringFilter.failure?_eq_some_iff, StringFilter.compiles_iff]
  constructor
  · rintro ⟨before, f, after, hfs, ⟨hf, hcause⟩, hbefore⟩
    exact ⟨before, f, after, hfs, hbefore, hf, hcause⟩
  · rintro ⟨before, f, after, hfs, hbefore, hf, hcause⟩
    exact ⟨before, f, after, hfs, ⟨hf, hcause⟩, hbefore⟩

end

/-! ### The first catalog -/

/-- The error of the first catalog that does not load. -/
def firstBadCatalog? (d : Disk) (ps : List Path) : Option LoadError :=
  ps.findSome? fun p => failure? (Catalog.load d p)

theorem BuiltRule.failure?_prepare (d : Disk) (h : Host) (rule : BuiltRule) :
    failure? (rule.prepare d h).value = (firstBadCatalog? d rule.sources).map .catalog := by
  cases rule with
  | variantCatalog r =>
    have hload : failure? (loadCatalogs d r.sources).value = firstBadCatalog? d r.sources := by
      rw [value_loadCatalogs, failure?_map, failure?_mapM]
      rfl
    rw [sources, ← hload, prepare]
    simp only [CatalogRule.prepare, Logged.value_bind]
    cases (loadCatalogs d r.sources).value <;> rfl
  | _ => rfl

theorem Engine.failure?_prepareRules (d : Disk) (h : Host) (rs : List DescribedRule) :
    failure? (prepareRules d h rs).value =
      (firstBadCatalog? d (rs.flatMap (·.rule.sources))).map .catalog := by
  rw [value_prepareRules, failure?_mapM, firstBadCatalog?, findSome?_flatMap, List.map_findSome?]
  simp only [readied, failure?_map, BuiltRule.failure?_prepare]
  rfl

/-! ### Preparing -/

namespace Stripper

variable [Pattern.Capacity]

/-- Filters come before catalogs, whatever the order of the rules is. -/
theorem failure?_engineFor (c : StripperConfig) (kind : BuildKind) (d : Disk) (h : Host) :
    failure? (engineFor c kind d h).value =
      (firstBadFilter? c.filters).or ((firstBadCatalog? d c.catalogPaths).map .catalog) := by
  rw [← Engine.failure?_buildRules, engineFor]
  cases hbuilt : Engine.buildRules c.build c.settings.rules with
  | error cause => rfl
  | ok built =>
    rw [Engine.catalogPaths_eq_of_buildRules hbuilt, ← Engine.failure?_prepareRules d h]
    cases built with
    | nil => rfl
    | cons q qs =>
      simp only [Logged.value_bind]
      cases (Engine.prepareRules d h (q :: qs)).value <;> rfl

/-- **Why preparing fails.** -/
theorem prepare_eq_error_iff {s : Stripper} {d : Disk} {h : Host} {assetBundles : Bool}
    {cause : StripError} :
    (s.prepare d h assetBundles).value.1 = .error cause ↔ s.config.Refuses d cause := by
  have hprepare : failure? (s.prepare d h assetBundles).value.1 =
      failure? (engineFor s.config (.ofFlag assetBundles) d h).value := by
    rw [prepare, Logged.value_bind]
    cases (engineFor s.config (.ofFlag assetBundles) d h).value <;> rfl
  rw [← failure?_eq_some_iff, hprepare, failure?_engineFor, Option.or_eq_some_iff,
    firstBadFilter?_eq_none_iff, firstBadFilter?_eq_some_iff, Option.map_eq_some_iff]
  constructor
  · rintro (⟨before, f, after, hfilters, hbefore, hf, rfl⟩ | ⟨hfilters, cause, hbad, rfl⟩)
    · exact .pattern hfilters hbefore hf
    · obtain ⟨before, p, after, hpaths, hp, hbefore⟩ := List.findSome?_eq_some_iff.mp hbad
      exact .catalog hfilters hpaths (fun q hq => failure?_eq_none_iff.mp (hbefore q hq))
        (failure?_eq_some_iff.mp hp)
  · rintro (⟨hfilters, hbefore, hf⟩ | ⟨hfilters, hpaths, hbefore, hp⟩)
    · exact .inl ⟨_, _, _, hfilters, hbefore, hf, rfl⟩
    · refine .inr ⟨hfilters, _, List.findSome?_eq_some_iff.mpr ⟨_, _, _, hpaths, ?_, ?_⟩, rfl⟩
      · exact failure?_eq_some_iff.mpr hp
      · exact fun q hq => failure?_eq_none_iff.mpr (hbefore q hq)

end Stripper

/-! ### Starting -/

namespace StripSession

variable {o : StripOptions} {config : Path} {e : Environment} {d : Disk}

theorem read_eq_error_iff {failure : CommandError} :
    read o config e d = .error failure ↔
      (∃ cause, Settings.load d o.settings = .error cause ∧ .load cause = failure) ∨
      ∃ settings, Settings.load d o.settings = .ok settings ∧
        ((∃ cause, ReportOverrides.load d config e o.overrides = .error cause ∧
          .config cause = failure) ∨
        ∃ overrides, ReportOverrides.load d config e o.overrides = .ok overrides ∧
          ∃ cause, Manifest.load d o.manifest = .error cause ∧ .manifest cause = failure) := by
  have hlast (settings : Settings) (overrides : ReportOverrides) (m : Manifest) :
      (pure (overrides.apply settings, m) : Except CommandError (Settings × Manifest)) ≠
        .error failure := nofun
  simp only [read, bind_eq_error_iff, mapError_eq_error_iff, mapError_eq_ok_iff, hlast, and_false,
    exists_false, or_false]

/-- After reading, it is the rules that may be refused. -/
theorem start_of_read [Pattern.Capacity] {settings : Settings} {m : Manifest}
    {failure : CommandError} (hread : read o config e d = .ok (settings, m)) :
    (start o config e d).value = .error failure ↔
      ∃ cause, (stripperConfig o settings).Refuses d cause ∧ .strip cause = failure := by
  have hrefuses (cause : StripError) : (stripperConfig o settings).Refuses d cause ↔
      (Stripper.prepare ⟨stripperConfig o settings, none, {}, .player⟩ d m.host
        o.assetBundles).value.1 = .error cause := by
    rw [Stripper.prepare_eq_error_iff]
  unfold start
  rw [hread]
  dsimp only
  rw [Logged.value_bind]
  simp only [hrefuses]
  generalize (Stripper.prepare ⟨stripperConfig o settings, none, {}, .player⟩ d m.host
    o.assetBundles).value = prepared
  obtain ⟨outcome, stripper⟩ := prepared
  cases outcome with
  | error cause => simp
  | ok u => simp

/-- **Why a strip fails to start.** -/
theorem start_eq_error_iff [Pattern.Capacity] {failure : CommandError} :
    (start o config e d).value = .error failure ↔ o.CannotStart config e d failure := by
  constructor
  · intro hfailed
    cases hread : read o config e d with
    | error failure' =>
      unfold start at hfailed
      rw [hread] at hfailed
      cases hfailed
      rcases read_eq_error_iff.mp hread with ⟨cause, hs, rfl⟩ |
        ⟨settings, hs, ⟨cause, ho, rfl⟩ | ⟨overrides, ho, cause, hm, rfl⟩⟩
      · exact .settings hs
      · exact .overrides hs ho
      · exact .manifest hs ho hm
    | ok inputs =>
      obtain ⟨cause, hrefused, rfl⟩ := (start_of_read hread).mp hfailed
      obtain ⟨settings, overrides, hs, ho, hsettings, hm⟩ := read_ok hread
      rw [hsettings] at hrefused
      exact .rules hs ho hm hrefused
  · intro hcannot
    have hread (h : read o config e d = .error failure) :
        (start o config e d).value = .error failure := by
      unfold start
      rw [h]
      rfl
    cases hcannot with
    | settings hs => exact hread (read_eq_error_iff.mpr (.inl ⟨_, hs, rfl⟩))
    | overrides hs ho => exact hread (read_eq_error_iff.mpr (.inr ⟨_, hs, .inl ⟨_, ho, rfl⟩⟩))
    | manifest hs ho hm =>
      exact hread (read_eq_error_iff.mpr (.inr ⟨_, hs, .inr ⟨_, ho, _, hm, rfl⟩⟩))
    | @rules settings overrides m cause hs ho hm hrefused =>
      have hread : read o config e d = .ok (overrides.apply settings, m) := by
        rw [read, hs, ho, hm]
        rfl
      exact (start_of_read hread).mpr ⟨cause, hrefused, rfl⟩

end StripSession

/-- **A strip that cannot start leaves no trace.**  It returns the first failure, whatever else
would have failed later on, and the disk is what it was.  Whenever the settings, the report
settings, the recorded build or the rules are refused, there is such a failure. -/
theorem no_trace_without_start [Pattern.Capacity] (o : StripOptions) (config : Path)
    (e : Environment) (sharding : Sharding) (clock : RunClock) (d : Disk) :
    (∀ failure, o.CannotStart config e d failure →
      (o.run config e sharding clock d).value = (.error failure, d)) ∧
    ((∃ cause, Settings.load d o.settings = .error cause) ∨
      (∃ cause, ReportOverrides.load d config e o.overrides = .error cause) ∨
      (∃ cause, Manifest.load d o.manifest = .error cause) ∨
      (∃ settings m cause, StripSession.read o config e d = .ok (settings, m) ∧
        (Stripper.prepare ⟨StripSession.stripperConfig o settings, none, {}, .player⟩ d m.host
          o.assetBundles).value.1 = .error cause) →
      ∃ failure, o.CannotStart config e d failure) := by
  constructor
  · intro failure hcannot
    rw [StripOptions.value_run, StripOptions.value_compute,
      StripSession.start_eq_error_iff.mpr hcannot]
    rfl
  · intro hrefused
    -- A strip that has started has got past all four.
    cases hstart : (StripSession.start o config e d).value with
    | error failure => exact ⟨failure, StripSession.start_eq_error_iff.mp hstart⟩
    | ok session =>
      obtain ⟨hhost, settings, hread, hprepare⟩ := StripSession.start_ok hstart
      obtain ⟨loaded, overrides, hs, ho, -, hm⟩ := StripSession.read_ok hread
      exfalso
      rcases hrefused with ⟨cause, h⟩ | ⟨cause, h⟩ | ⟨cause, h⟩ | ⟨settings', m, cause, hread', h⟩
      · rw [hs] at h
        cases h
      · rw [ho] at h
        cases h
      · rw [hm] at h
        cases h
      · cases hread.symm.trans hread'
        rw [← hhost, hprepare] at h
        cases h

/-- Settings with a rule on a catalog in front of a rule with a malformed filter. -/
def fjordSettings : Settings where
  rules := [
    { spec := .includeVariantCatalog { catalogs := [⟨"c.json"⟩] } },
    { spec := .stripShaderName [⟨.regex, "(", false⟩] }]

/-- A disk with these settings, a catalog that is broken, and a recorded build. -/
def fjordDisk : Disk where
  entries := [
    (["s.ron"], .file (
      "(rules: [(rule: IncludeVariantCatalog((catalogs: [\"c.json\"])))," ++
      "(rule: StripShaderName((shader_names: [(match_type: Regex, pattern: \"(\")])))])")),
    (["c.json"], .file "?"),
    (["m.json"], .file "\x7b\"shaders\":[]\x7d")]

/-- A strip that is asked for a report, a manifest and a summary. -/
def fjordOptions : StripOptions where
  settings := ⟨"s.ron"⟩
  manifest := ⟨"m.json"⟩
  overrides := { logDir := some ⟨"log"⟩ }
  output := some ⟨"out.json"⟩
  summary := some ⟨"sum/up.json"⟩

/-- The filter is refused before the catalog is looked for, and nothing is written. -/
theorem no_trace_without_start_fjord :
    Catalog.load fjordDisk ⟨"c.json"⟩ = .error (.malformed .json) ∧
      (fjordOptions.run ⟨""⟩ [] .byHalves ⟨⟨2024, 2, 29⟩, 0, 0⟩ fjordDisk).value =
        (.error (.strip (.invalidPattern "(")), fjordDisk) ∧
      ∃ failure, fjordOptions.CannotStart ⟨""⟩ [] fjordDisk failure := by
  have hsettings : Settings.load fjordDisk fjordOptions.settings = .ok fjordSettings := by
    decide +kernel
  have hoverrides : ReportOverrides.load fjordDisk ⟨""⟩ [] fjordOptions.overrides =
      .ok fjordOptions.overrides := by
    decide +kernel
  have hmanifest : Manifest.load fjordDisk fjordOptions.manifest = .ok {} := by decide +kernel
  have hpattern : ¬ StringFilter.Compiles ⟨.regex, "(", false⟩ := by
    rw [StringFilter.compiles_iff]
    decide +kernel
  have hrefused : (StripSession.stripperConfig fjordOptions
      (fjordOptions.overrides.apply fjordSettings)).Refuses fjordDisk (.invalidPattern "(") :=
    .pattern (List.nil_append _).symm (List.forall_mem_nil _) hpattern
  obtain ⟨hfirst, hexists⟩ :=
    no_trace_without_start fjordOptions ⟨""⟩ [] .byHalves ⟨⟨2024, 2, 29⟩, 0, 0⟩ fjordDisk
  refine ⟨by decide +kernel, hfirst _ (.rules hsettings hoverrides hmanifest hrefused), ?_⟩
  refine hexists (.inr (.inr (.inr ⟨_, {}, _, ?_, Stripper.prepare_eq_error_iff.mpr hrefused⟩)))
  rw [StripSession.read, hsettings, hoverrides, hmanifest]
  rfl

end VariantStrip
