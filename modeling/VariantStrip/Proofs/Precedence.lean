/-
Which report settings count.

* `ConfigLayer.sets` — what a layer sets, one report setting at a time,
* `ReportOverrides.ofLayers_of_fits` — if the values that count in the file and the environment have
  the right kinds, then each report setting comes from the first layer that sets it,
* `ReportOverrides.ofLayers_of_not_fits` — and otherwise they cannot be read, whatever the command
  line says,
* `Stripper.value_prepare_apply` and `StripOptions.outcome_compute` — report settings have no part
  in the rules, so what is left of a recorded build does not depend on them.

The main result is `report_settings_have_precedence`.
-/
import VariantStrip.Proofs.CatalogFiles
import VariantStrip.Proofs.Replay

namespace VariantStrip

/-! ### Layers -/

theorem findSome?_three {α β : Type} (f : α → Option β) (x y z : α) :
    [x, y, z].findSome? f = (f x).or ((f y).or (f z)) := by
  rw [List.findSome?_cons, List.findSome?_cons, List.findSome?_cons, List.findSome?_nil]
  cases f x <;> cases f y <;> cases f z <;> rfl

namespace ConfigValue

/-- A text as a path. -/
def path? : ConfigValue → Option Path
  | text s => some ⟨s⟩
  | _ => none

/-- A truth value. -/
def bool? : ConfigValue → Option Bool
  | bool b => some b
  | _ => none

end ConfigValue

/-- The report settings that a layer sets; the other ones it leaves open. -/
def ConfigLayer.sets (l : ConfigLayer) : ReportOverrides where
  logDir := (l.get? "log_dir").bind (·.path?)
  logIncluded := (l.get? "log_included_variants").bind (·.bool?)
  logStripped := (l.get? "log_stripped_variants").bind (·.bool?)

/-- The value that counts for a key, of the one in the file and the one in the environment. -/
def merged (file environment : ConfigLayer) (key : String) : Option ConfigValue :=
  (environment.get? key).or (file.get? key)

/-- The values that count have the right kinds: a text for the folder, a truth value for each of the
other settings. -/
def Fits (file environment : ConfigLayer) : Prop :=
  (∀ v ∈ merged file environment "log_dir", ∃ s, v = .text s) ∧
    ∀ key ∈ ["log_included_variants", "log_stripped_variants"],
      ∀ v ∈ merged file environment key, ∃ b, v = .bool b

namespace ReportOverrides

theorem path?_eq_some_iff {x : Option ConfigValue} {p : Option Path} :
    path? x = some p ↔ (∀ v ∈ x, ∃ s, v = .text s) ∧ p = x.bind (·.path?) := by
  rcases x with - | (b | s | -) <;> simp [path?, ConfigValue.path?, eq_comm]

theorem bool?_eq_some_iff {x : Option ConfigValue} {b : Option Bool} :
    bool? x = some b ↔ (∀ v ∈ x, ∃ b, v = .bool b) ∧ b = x.bind (·.bool?) := by
  rcases x with - | (b | s | -) <;> simp [bool?, ConfigValue.bool?, eq_comm]

variable {file environment : ConfigLayer}

/-- What can be read of two layers. -/
theorem ofLayer?_append_eq_some_iff {o : ReportOverrides} :
    ofLayer? (file ++ environment) = some o ↔ Fits file environment ∧
      o = { logDir := (merged file environment "log_dir").bind (·.path?)
            logIncluded := (merged file environment "log_included_variants").bind (·.bool?)
            logStripped := (merged file environment "log_stripped_variants").bind (·.bool?) } := by
  simp only [ofLayer?, ConfigLayer.get?_append, Option.bind_eq_bind, Option.bind_eq_some_iff,
    path?_eq_some_iff, bool?_eq_some_iff, Option.pure_def, Option.some.injEq, Fits,
    List.forall_mem_cons, merged]
  constructor
  · rintro ⟨p, ⟨hp, rfl⟩, b, ⟨hb, rfl⟩, c, ⟨hc, rfl⟩, rfl⟩
    exact ⟨⟨hp, hb, hc, nofun⟩, rfl⟩
  · rintro ⟨⟨hp, hb, hc, -⟩, rfl⟩
    exact ⟨_, ⟨hp, rfl⟩, _, ⟨hb, rfl⟩, _, ⟨hc, rfl⟩, rfl⟩

/-- A value of the right kind comes from the environment, or from the file if the environment sets
none. -/
theorem bind_merged {α : Type} {key : String} {get : ConfigValue → Option α}
    (hfits : ∀ v ∈ merged file environment key, get v ≠ none) :
    (merged file environment key).bind get =
      ((environment.get? key).bind get).or ((file.get? key).bind get) := by
  rw [merged] at hfits ⊢
  -- A value of the wrong kind in the environment would hide the one in the file.
  cases hvalue : environment.get? key with
  | none => rfl
  | some v =>
    have hget : get v ≠ none := hfits v (by rw [hvalue]; rfl)
    obtain ⟨x, hx⟩ := Option.ne_none_iff_exists'.mp hget
    rw [Option.some_or, Option.bind_some, hx, Option.some_or]

/-- **Values of the right kinds.**  The command line comes first, then the environment, then the
file. -/
theorem ofLayers_of_fits (h : Fits file environment) (arguments : ReportOverrides) :
    ofLayers file environment arguments =
      .ok (arguments.orElse (environment.sets.orElse file.sets)) := by
  have hbool : ∀ key ∈ ["log_included_variants", "log_stripped_variants"],
      (merged file environment key).bind (·.bool?) =
        ((environment.get? key).bind (·.bool?)).or ((file.get? key).bind (·.bool?)) := by
    intro key hkey
    refine bind_merged fun v hv => ?_
    obtain ⟨b, rfl⟩ := h.2 key hkey v hv
    exact Option.some_ne_none b
  have hpath : (merged file environment "log_dir").bind (·.path?) =
      ((environment.get? "log_dir").bind (·.path?)).or ((file.get? "log_dir").bind (·.path?)) := by
    refine bind_merged fun v hv => ?_
    obtain ⟨s, rfl⟩ := h.1 v hv
    exact Option.some_ne_none (⟨s⟩ : Path)
  rw [ofLayers, ofLayer?_append_eq_some_iff.mpr ⟨h, rfl⟩, hpath, hbool _ (by simp),
    hbool _ (by simp)]
  rfl

/-- **A value of another kind** is a failure, whatever the command line says. -/
theorem ofLayers_of_not_fits (h : ¬ Fits file environment) (arguments : ReportOverrides) :
    ofLayers file environment arguments = .error .wrongKind := by
  rw [ofLayers]
  cases hread : ofLayer? (file ++ environment) with
  | none => rfl
  | some o => exact absurd (ofLayer?_append_eq_some_iff.mp hread).1 h

/-- Reading report settings puts the layer of the file below that of the environment. -/
theorem load_of_fileLayer {d : Disk} {config : Path} (hfile : fileLayer d config = .ok file)
    (e : Environment) (arguments : ReportOverrides) :
    load d config e arguments = ofLayers file (e.layer variableStart) arguments := by
  rw [load, hfile]
  rfl

end ReportOverrides

/-! ### What is left of a recorded build -/

/-- Preparing with other report settings, which the engine does not look at. -/
theorem Stripper.value_prepare_apply [Pattern.Capacity] (c : StripperConfig) (o : ReportOverrides)
    (d : Disk) (h : Host) (assetBundles : Bool) :
    (Stripper.prepare ⟨{ c with settings := o.apply c.settings }, none, {}, .player⟩ d h
        assetBundles).value =
      let prepared := (Stripper.prepare ⟨c, none, {}, .player⟩ d h assetBundles).value
      (prepared.1, { prepared.2 with config := { c with settings := o.apply c.settings } }) := by
  have hengine : engineFor { c with settings := o.apply c.settings } (.ofFlag assetBundles) d h =
      engineFor c (.ofFlag assetBundles) d h := by
    simp only [engineFor, Engine.ofRules, ReportOverrides.apply]
  rw [prepare, prepare]
  simp only [Logged.value_bind, hengine]
  cases (engineFor c (.ofFlag assetBundles) d h).value with
  | error cause => rfl
  | ok engine => rfl

/-- What is left of a recorded build, and the totals. -/
def StripResult.outcome (r : StripResult) : Manifest × StripTotals := (r.manifest, r.totals)

namespace StripOptions

variable [Pattern.Capacity]

/-- What is computed of settings and a recorded build. -/
def outcomeOf (o : StripOptions) (d : Disk) (s : Settings) (m : Manifest) :
    Except CommandError (Manifest × StripTotals) :=
  let prepared := (Stripper.prepare ⟨StripSession.stripperConfig o s, none, {}, .player⟩ d m.host
    o.assetBundles).value
  (prepared.1.mapError .strip).map fun () =>
    (StripSession.replayed ⟨prepared.2, m.host, m⟩).outcome

/-- Report settings have no part in what is computed. -/
theorem outcomeOf_apply (o : StripOptions) (overrides : ReportOverrides) (d : Disk) (s : Settings)
    (m : Manifest) : o.outcomeOf d (overrides.apply s) m = o.outcomeOf d s m := by
  have hprepare : (Stripper.prepare ⟨StripSession.stripperConfig o (overrides.apply s), none, {},
      .player⟩ d m.host o.assetBundles).value = _ :=
    Stripper.value_prepare_apply (StripSession.stripperConfig o s) overrides d m.host
      o.assetBundles
  rw [outcomeOf, outcomeOf, hprepare]
  generalize (Stripper.prepare ⟨StripSession.stripperConfig o s, none, {}, .player⟩ d m.host
    o.assetBundles).value = prepared
  obtain ⟨result, stripper⟩ := prepared
  -- What is left of the passes depends on the engine of the stripper, and on nothing else of it.
  cases result with
  | error cause => rfl
  | ok u => rfl

theorem outcomeOf_congr {o : StripOptions} {d d' : Disk} {s : Settings}
    (hcatalogs : (StripSession.stripperConfig o s).SameCatalogs d d') (m : Manifest) :
    o.outcomeOf d s m = o.outcomeOf d' s m := by
  have hprepare := Stripper.value_prepare_congr
    (s := ⟨StripSession.stripperConfig o s, none, {}, .player⟩) hcatalogs m.host o.assetBundles
  rw [outcomeOf, outcomeOf, hprepare]

/-- What is computed comes from the settings and the recorded build that are read. -/
theorem value_compute_outcome (o : StripOptions) (config : Path) (e : Environment)
    (sharding : Sharding) (d : Disk) :
    (o.compute config e sharding d).value.map StripResult.outcome =
      (StripSession.read o config e d).bind fun inputs => o.outcomeOf d inputs.1 inputs.2 := by
  rw [value_compute]
  unfold StripSession.start
  cases StripSession.read o config e d with
  | error failure => rfl
  | ok inputs =>
    obtain ⟨s, m⟩ := inputs
    dsimp only
    rw [Logged.value_bind]
    show _ = o.outcomeOf d s m
    rw [outcomeOf]
    generalize (Stripper.prepare ⟨StripSession.stripperConfig o s, none, {}, .player⟩ d m.host
      o.assetBundles).value = prepared
    obtain ⟨result, stripper⟩ := prepared
    cases result with
    | error cause => rfl
    | ok u => rfl

/-- **Report settings** have no part in what is computed, as long as they can be read. -/
theorem outcome_compute {o : StripOptions} {config : Path} {e : Environment} {d : Disk}
    {overrides : ReportOverrides}
    (hoverrides : ReportOverrides.load d config e o.overrides = .ok overrides)
    (sharding : Sharding) :
    (o.compute config e sharding d).value.map StripResult.outcome =
      ((Settings.load d o.settings).mapError CommandError.load).bind fun s =>
        ((Manifest.load d o.manifest).mapError CommandError.manifest).bind fun m =>
          o.outcomeOf d s m := by
  rw [value_compute_outcome, StripSession.read, hoverrides]
  cases Settings.load d o.settings with
  | error cause => rfl
  | ok s =>
    cases Manifest.load d o.manifest with
    | error cause => rfl
    | ok m => exact o.outcomeOf_apply overrides d s m

theorem outcomeOf_with (o : StripOptions) (arguments : ReportOverrides) (d : Disk) (s : Settings)
    (m : Manifest) : { o with overrides := arguments }.outcomeOf d s m = o.outcomeOf d s m := rfl

/-- The same for a strip that is given other report settings on the command line. -/
theorem outcome_compute_with (o : StripOptions) {arguments overrides : ReportOverrides}
    {config : Path} {e : Environment} {d : Disk}
    (hoverrides : ReportOverrides.load d config e arguments = .ok overrides)
    (sharding : Sharding) :
    ({ o with overrides := arguments }.compute config e sharding d).value.map
        StripResult.outcome =
      ((Settings.load d o.settings).mapError CommandError.load).bind fun s =>
        ((Manifest.load d o.manifest).mapError CommandError.manifest).bind fun m =>
          o.outcomeOf d s m := by
  have hcompute := outcome_compute (o := { o with overrides := arguments }) hoverrides sharding
  simp only [outcomeOf_with] at hcompute
  exact hcompute

/-- **Two strips** of the same build by the same rules have the same outcome, whatever their report
settings are. -/
theorem outcome_compute_congr (o : StripOptions) {arguments arguments' : ReportOverrides}
    {config config' : Path} {e e' : Environment} {d d' : Disk}
    {overrides overrides' : ReportOverrides}
    (hoverrides : ReportOverrides.load d config e arguments = .ok overrides)
    (hoverrides' : ReportOverrides.load d' config' e' arguments' = .ok overrides')
    (hsettings : Settings.load d' o.settings = Settings.load d o.settings)
    (hmanifest : Manifest.load d' o.manifest = Manifest.load d o.manifest)
    (hcatalogs : ∀ s, Settings.load d o.settings = .ok s →
      (StripSession.stripperConfig o s).SameCatalogs d d') (sharding sharding' : Sharding) :
    ({ o with overrides := arguments }.compute config e sharding d).value.map
        StripResult.outcome =
      ({ o with overrides := arguments' }.compute config' e' sharding' d').value.map
        StripResult.outcome := by
  rw [outcome_compute_with o hoverrides, outcome_compute_with o hoverrides', hsettings, hmanifest]
  refine bind_congr_ok fun s hs => bind_congr_ok fun m _ => ?_
  exact outcomeOf_congr (hcatalogs s (mapError_eq_ok_iff.mp hs)) m

end StripOptions

/-- **Report settings have an order.**

* If the values that count in the file and in the environment have the right kinds, then each of the
  three settings comes from the first place that sets it: the command line, the environment, the
  file, the settings of the build.  The rules, and whether shaders bypass them, stay as they are.
* If one of these values is of another kind, the report settings cannot be read, whatever the
  command line sets.
* Both apply to what is read of the disk and of the environment.
* A strip leaves the same of a recorded build, and has the same totals, with any report settings
  that can be read, wherever these come from. -/
theorem report_settings_have_precedence [Pattern.Capacity] :
    (∀ (file environment : ConfigLayer) (arguments : ReportOverrides) (s : Settings),
      Fits file environment →
      ∃ o, ReportOverrides.ofLayers file environment arguments = .ok o ∧
        (o.apply s).logPath =
          ([arguments, environment.sets, file.sets].findSome? (·.logDir)).or s.logPath ∧
        (o.apply s).logIncluded =
          ([arguments, environment.sets, file.sets].findSome? (·.logIncluded)).getD
            s.logIncluded ∧
        (o.apply s).logStripped =
          ([arguments, environment.sets, file.sets].findSome? (·.logStripped)).getD
            s.logStripped ∧
        (o.apply s).rules = s.rules ∧
        (o.apply s).processAlwaysIncluded = s.processAlwaysIncluded) ∧
    (∀ (file environment : ConfigLayer) (arguments : ReportOverrides), ¬ Fits file environment →
      ReportOverrides.ofLayers file environment arguments = .error .wrongKind) ∧
    (∀ (d : Disk) (config : Path) (file : ConfigLayer) (e : Environment)
      (arguments : ReportOverrides), ReportOverrides.fileLayer d config = .ok file →
      ReportOverrides.load d config e arguments =
        ReportOverrides.ofLayers file (e.layer ReportOverrides.variableStart) arguments) ∧
    ∀ (o : StripOptions) (arguments arguments' : ReportOverrides) (config config' : Path)
      (e e' : Environment) (sharding sharding' : Sharding) (d d' : Disk) overrides overrides',
      ReportOverrides.load d config e arguments = .ok overrides →
      ReportOverrides.load d' config' e' arguments' = .ok overrides' →
      Settings.load d' o.settings = Settings.load d o.settings →
      Manifest.load d' o.manifest = Manifest.load d o.manifest →
      (∀ s, Settings.load d o.settings = .ok s →
        (StripSession.stripperConfig o s).SameCatalogs d d') →
      ({ o with overrides := arguments }.compute config e sharding d).value.map
          StripResult.outcome =
        ({ o with overrides := arguments' }.compute config' e' sharding' d').value.map
          StripResult.outcome := by
  refine ⟨?_, ?_, ?_, ?_⟩
  · intro file environment arguments s hfits
    refine ⟨_, ReportOverrides.ofLayers_of_fits hfits arguments, ?_, ?_, ?_, rfl, rfl⟩
    · rw [findSome?_three]
      rfl
    · rw [findSome?_three]
      rfl
    · rw [findSome?_three]
      rfl
  · intro file environment arguments hfits
    exact ReportOverrides.ofLayers_of_not_fits hfits arguments
  · intro d config file e arguments hfile
    exact ReportOverrides.load_of_fileLayer hfile e arguments
  · intro o arguments arguments' config config' e e' sharding sharding' d d' overrides overrides'
      hoverrides hoverrides' hsettings hmanifest hcatalogs
    exact o.outcome_compute_congr hoverrides hoverrides' hsettings hmanifest hcatalogs sharding
      sharding'

/-- The disk with a recorded build, and with a config file. -/
def sandbarDisk : Disk :=
  { sandDisk with entries := (["c.toml"],
      .file "log_dir = \"Tide\"\nlog_included_variants = false") :: sandDisk.entries }

/-- An environment that sets another report setting. -/
def sandbarVariables : Environment := [("SHADER_STRIPPER_LOG_STRIPPED_VARIANTS", "true")]

theorem report_settings_have_precedence_sandbar :
    (∃ o, ReportOverrides.load sandbarDisk ⟨"c.toml"⟩ sandbarVariables
        { logIncluded := some true } = .ok o ∧
      (o.apply {}).logPath = some ⟨"Tide"⟩ ∧ (o.apply {}).logIncluded = true ∧
      (o.apply {}).logStripped = true) ∧
    ReportOverrides.ofLayers [("log_dir", .other)] []
      { logDir := some ⟨"Tide"⟩, logIncluded := some true, logStripped := some true } =
        .error .wrongKind ∧
    (sandOptions.compute ⟨""⟩ [] .byHalves sandDisk).value.map StripResult.outcome =
      ({ sandOptions with overrides := { logIncluded := some true } }.compute ⟨"c.toml"⟩
        sandbarVariables .byHalves sandbarDisk).value.map StripResult.outcome := by
  obtain ⟨horder, hwrong, hlayers, hsame⟩ := report_settings_have_precedence
  have hfile : ReportOverrides.fileLayer sandbarDisk ⟨"c.toml"⟩ =
      .ok [("log_dir", .text "Tide"), ("log_included_variants", .bool false)] := by
    decide +kernel
  have hfits : Fits [("log_dir", .text "Tide"), ("log_included_variants", .bool false)]
      (sandbarVariables.layer ReportOverrides.variableStart) := by
    have henvironment : sandbarVariables.layer ReportOverrides.variableStart =
        [("log_stripped_variants", .bool true)] := by
      decide +kernel
    rw [henvironment]
    refine ⟨?_, List.forall_mem_cons.mpr ⟨?_, List.forall_mem_singleton.mpr ?_⟩⟩
    · rintro v ⟨⟩
      exact ⟨"Tide", rfl⟩
    · rintro v ⟨⟩
      exact ⟨false, rfl⟩
    · rintro v ⟨⟩
      exact ⟨true, rfl⟩
  refine ⟨?_, ?_, ?_⟩
  · obtain ⟨o, ho, hpath, hincluded, hstripped, -, -⟩ :=
      horder _ _ { logIncluded := some true } {} hfits
    rw [← hlayers _ _ _ sandbarVariables _ hfile] at ho
    exact ⟨o, ho, hpath, hincluded, hstripped⟩
  · refine hwrong _ _ _ ?_
    rintro ⟨htext, -⟩
    obtain ⟨s, ⟨⟩⟩ := htext .other rfl
  · have hread : ReportOverrides.load sandbarDisk ⟨"c.toml"⟩ sandbarVariables
        { logIncluded := some true } = .ok ⟨some ⟨"Tide"⟩, some true, some true⟩ := by
      decide +kernel
    have hsettings : sandbarDisk.read sandOptions.settings =
        sandDisk.read sandOptions.settings := by
      decide +kernel
    have hmanifest : sandbarDisk.read sandOptions.manifest =
        sandDisk.read sandOptions.manifest := by
      decide +kernel
    have hloaded : Settings.load sandDisk ⟨"s.ron"⟩ =
        .ok { rules := [{ spec := .stripPlatforms [.ps4] }] } := by
      decide +kernel
    refine hsame sandOptions {} { logIncluded := some true } ⟨""⟩ ⟨"c.toml"⟩ [] sandbarVariables
      .byHalves .byHalves sandDisk sandbarDisk {} _ (by decide +kernel) hread ?_ ?_ ?_
    · rw [Settings.load, Settings.load, hsettings]
    · rw [Manifest.load, Manifest.load, hmanifest]
    · -- The rule has no catalogs.
      rintro s hs p hp
      cases hs.symm.trans hloaded
      cases hp

end VariantStrip
