/-
Which fault is reported when preparing fails.

Preparing first compiles the filters of all enabled rules, and then loads their catalogs, of which
those that do not exist are passed over:

* `StripperConfig.exists_refuses_iff` — preparing fails if there is any fault in the enabled rules,
* `Stripper.prepare_of_bad_filter` — a filter that does not compile decides the outcome, whatever is
  on the disk,
* `Stripper.prepare_of_bad_catalog` — if all filters compile, the first catalog that fails to load
  is reported.

The main result is `prepare_reports_first_fault`.
-/
import VariantStrip.Proofs.CatalogLoad
import VariantStrip.Proofs.History
import VariantStrip.Proofs.Refusal

namespace VariantStrip

/-- There is a first one among the elements of a list that fail a test. -/
theorem exists_first {α : Type} {p : α → Prop} {xs : List α} (h : ∃ x ∈ xs, ¬ p x) :
    ∃ before x after, xs = before ++ x :: after ∧ (∀ y ∈ before, p y) ∧ ¬ p x := by
  induction xs with
  | nil => simp at h
  | cons x xs ih =>
    by_cases hx : p x
    · obtain ⟨y, hy, hfails⟩ := h
      have hne : y ≠ x := fun heq => hfails (heq ▸ hx)
      obtain ⟨before, z, after, rfl, hbefore, hz⟩ := ih ⟨y, List.mem_of_ne_of_mem hne hy, hfails⟩
      exact ⟨x :: before, z, after, rfl, List.forall_mem_cons.mpr ⟨hx, hbefore⟩, hz⟩
    · exact ⟨[], x, xs, rfl, List.forall_mem_nil _, hx⟩

/-! ### Whether preparing fails -/

/-- A filter of an enabled rule. -/
theorem StripperConfig.mem_filters_iff {c : StripperConfig} {f : StringFilter} :
    f ∈ c.filters ↔ ∃ r ∈ c.settings.rules, r.enabled = true ∧ f ∈ r.spec.filters := by
  simp only [filters, Settings.enabledRules, List.mem_flatMap, List.mem_filter, and_assoc]

/-- A catalog of an enabled rule. -/
theorem StripperConfig.mem_catalogPaths_iff {c : StripperConfig} {p : Path} :
    p ∈ c.catalogPaths ↔
      ∃ r ∈ c.settings.rules, r.enabled = true ∧ ∃ q ∈ r.spec.catalogs, c.build.resolve q = p := by
  simp only [catalogPaths, Settings.enabledRules, List.mem_flatMap, List.mem_filter, List.mem_map,
    and_assoc]

/-- **Preparing fails** if there is any fault in the enabled rules. -/
theorem StripperConfig.exists_refuses_iff [Pattern.Capacity] {c : StripperConfig} {d : Disk} :
    (∃ cause, c.Refuses d cause) ↔
      (∃ f ∈ c.filters, ¬ f.Compiles) ∨
        ∃ p ∈ c.catalogPaths, ∃ cause, Catalog.LoadFails d p cause := by
  constructor
  · rintro ⟨_, hrefuses⟩
    cases hrefuses with
    | @pattern before after f hfilters _ hf =>
      refine .inl ⟨f, ?_, hf⟩
      rw [hfilters]
      exact List.mem_append_right _ List.mem_cons_self
    | @catalog before after p cause _ hpaths _ hp =>
      refine .inr ⟨p, ?_, cause, Catalog.load_eq_error_iff.mp hp⟩
      rw [hpaths]
      exact List.mem_append_right _ List.mem_cons_self
  · intro hfault
    by_cases hfilters : ∃ f ∈ c.filters, ¬ f.Compiles
    · obtain ⟨before, f, after, hlist, hbefore, hf⟩ := exists_first hfilters
      exact ⟨_, .pattern hlist hbefore hf⟩
    · -- All filters compile, so it is the catalogs that decide.
      have hcatalogs : ∃ p ∈ c.catalogPaths, ¬ ∀ cause, ¬ Catalog.LoadFails d p cause := by
        obtain ⟨p, hp, cause, hfails⟩ := hfault.resolve_left hfilters
        exact ⟨p, hp, fun hnone => hnone cause hfails⟩
      obtain ⟨before, p, after, hlist, hbefore, hp⟩ := exists_first hcatalogs
      obtain ⟨cause, hfails⟩ := not_forall_not.mp hp
      refine ⟨_, .catalog (fun f hf => ?_) hlist (fun q hq => ?_)
        (Catalog.load_eq_error_iff.mpr hfails)⟩
      · by_contra hcompiles
        exact hfilters ⟨f, hf, hcompiles⟩
      · exact Catalog.loads_iff.mpr (hbefore q hq)

/-! ### The fault that is reported -/

namespace Stripper

variable [Pattern.Capacity] {s : Stripper} {d : Disk} {h : Host} {assetBundles : Bool}

theorem prepare_of_buildRules_error {cause : StripError}
    (hbuilt : Engine.buildRules s.config.build s.config.settings.rules = .error cause) :
    s.prepare d h assetBundles =
      pure (.error cause, { config := s.config, kind := .ofFlag assetBundles }) := by
  rw [prepare, engineFor, hbuilt]
  rfl

/-- **The first filter that does not compile** decides the outcome, whatever is on the disk. -/
theorem prepare_of_bad_filter {before after : List StringFilter} {f : StringFilter}
    (hfilters : s.config.filters = before ++ f :: after) (hbefore : ∀ g ∈ before, g.Compiles)
    (hf : ¬ f.Compiles) :
    s.prepare d h assetBundles =
      pure (.error (.invalidPattern f.pattern),
        { config := s.config, kind := .ofFlag assetBundles }) := by
  refine prepare_of_buildRules_error (failure?_eq_some_iff.mp ?_)
  rw [Engine.failure?_buildRules]
  exact firstBadFilter?_eq_some_iff.mpr ⟨before, f, after, hfilters, hbefore, hf, rfl⟩

/-- **The first catalog that fails to load** is reported if all filters compile. -/
theorem prepare_of_bad_catalog {before after : List Path} {p : Path} {cause : LoadError}
    (hfilters : ∀ f ∈ s.config.filters, f.Compiles)
    (hpaths : s.config.catalogPaths = before ++ p :: after)
    (hbefore : ∀ q ∈ before, ∀ cause, ¬ Catalog.LoadFails d q cause)
    (hp : Catalog.LoadFails d p cause) :
    (s.prepare d h assetBundles).value.1 = .error (.catalog cause) :=
  prepare_eq_error_iff.mpr (.catalog hfilters hpaths
    (fun q hq => Catalog.loads_iff.mpr (hbefore q hq)) (Catalog.load_eq_error_iff.mpr hp))

end Stripper

/-- **Preparing fails for the first fault.**

* It fails exactly if a filter of an enabled rule does not compile, or a catalog of an enabled rule
  fails to load.  Rules that are not enabled do not count.
* If a filter does not compile, the first such one is reported with its pattern.  The filters are
  taken in the order of the rules, and in a rule on keywords those for development come before those
  for release, whatever is being built.  Nothing depends on the disk, so no catalog is read.
* If all filters compile, the first catalog that fails to load is reported.  The catalogs are taken
  in the order of the rules, and in a rule as they are listed.
* After a failure nothing is stripped, and nothing has been counted. -/
theorem prepare_reports_first_fault [Pattern.Capacity] (s : Stripper) (d : Disk) (h : Host)
    (assetBundles : Bool) :
    ((∃ cause, (s.prepare d h assetBundles).value.1 = .error cause) ↔
      ∃ r ∈ s.config.settings.rules, r.enabled = true ∧
        ((∃ f ∈ r.spec.filters, ¬ f.Compiles) ∨
          ∃ p ∈ r.spec.catalogs, ∃ cause,
            Catalog.LoadFails d (s.config.build.resolve p) cause)) ∧
    (∀ before f after, s.config.filters = before ++ f :: after →
      (∀ g ∈ before, g.Compiles) → ¬ f.Compiles →
      (s.prepare d h assetBundles).value.1 = .error (.invalidPattern f.pattern) ∧
        ∀ d', s.prepare d' h assetBundles = s.prepare d h assetBundles) ∧
    (∀ before p after cause, (∀ f ∈ s.config.filters, f.Compiles) →
      s.config.catalogPaths = before ++ p :: after →
      (∀ q ∈ before, ∀ cause, ¬ Catalog.LoadFails d q cause) → Catalog.LoadFails d p cause →
      (s.prepare d h assetBundles).value.1 = .error (.catalog cause)) ∧
    ∀ cause, (s.prepare d h assetBundles).value.1 = .error cause →
      (s.prepare d h assetBundles).value.2.isEnabled = false ∧
        (s.prepare d h assetBundles).value.2.tally = {} := by
  refine ⟨?_, fun before f after hfilters hbefore hf => ?_,
    fun before p after cause hfilters hpaths hbefore hp => ?_, fun cause hfailed => ?_⟩
  · simp only [Stripper.prepare_eq_error_iff, StripperConfig.exists_refuses_iff,
      StripperConfig.mem_filters_iff, StripperConfig.mem_catalogPaths_iff]
    constructor
    · rintro (⟨f, ⟨r, hr, henabled, hmem⟩, hf⟩ | ⟨_, ⟨r, hr, henabled, p, hmem, rfl⟩, hfails⟩)
      · exact ⟨r, hr, henabled, .inl ⟨f, hmem, hf⟩⟩
      · exact ⟨r, hr, henabled, .inr ⟨p, hmem, hfails⟩⟩
    · rintro ⟨r, hr, henabled, ⟨f, hmem, hf⟩ | ⟨p, hmem, hfails⟩⟩
      · exact .inl ⟨f, ⟨r, hr, henabled, hmem⟩, hf⟩
      · exact .inr ⟨_, ⟨r, hr, henabled, p, hmem, rfl⟩, hfails⟩
  · have hprepare (d : Disk) : s.prepare d h assetBundles =
        pure (.error (.invalidPattern f.pattern),
          { config := s.config, kind := .ofFlag assetBundles }) :=
      Stripper.prepare_of_bad_filter hfilters hbefore hf
    refine ⟨?_, fun d' => ?_⟩
    · rw [hprepare]
      rfl
    · rw [hprepare, hprepare]
  · exact Stripper.prepare_of_bad_catalog hfilters hpaths hbefore hp
  · have hnot : (s.prepare d h assetBundles).value.1 ≠ .ok () := by
      rw [hfailed]
      exact nofun
    rw [Stripper.prepare_of_no_rules (.inl hnot)]
    exact ⟨rfl, rfl⟩

/-- Settings with a malformed filter in a rule that is not enabled, two catalogs of which the second
has no known format, and a rule on keywords with some filters. -/
def harborStripper (development release : List StringFilter) : Stripper where
  config := {
    settings := {
      rules := [
        { spec := .stripShaderName [⟨.regex, "*", false⟩], enabled := false },
        { spec := .includeVariantCatalog { catalogs := [⟨"known.json"⟩, ⟨"old.txt"⟩] } },
        { spec := .stripKeywords
            { excludeDevelopment := development, excludeRelease := release } }] } }

/-- With malformed filters the first one for development is reported.  Without them it is the second
catalog: the first one does not exist, which is no fault. -/
theorem prepare_reports_first_fault_harbor :
    let broken :=
      harborStripper [⟨.equals, "(", false⟩, ⟨.regex, "(", false⟩] [⟨.regex, ")", false⟩]
    let sound := harborStripper [] []
    (∀ d, (broken.prepare d {} false).value.1 = .error (.invalidPattern "(")) ∧
      (sound.prepare {} {} false).value.1 = .error (.catalog (.unknownFormat ⟨"old.txt"⟩)) ∧
      (sound.prepare {} {} false).value.2.isEnabled = false := by
  intro broken sound
  have hequals : StringFilter.Compiles ⟨.equals, "(", false⟩ := ⟨_, rfl⟩
  have hpattern : ¬ StringFilter.Compiles ⟨.regex, "(", false⟩ := by
    rw [StringFilter.compiles_iff]
    decide +kernel
  have hmissing : ∀ cause, ¬ Catalog.LoadFails {} ⟨"known.json"⟩ cause :=
    Catalog.loads_iff.mp ⟨none, by decide +kernel⟩
  have hformat : Format.ofPath? ⟨"old.txt"⟩ = none := by decide +kernel
  obtain ⟨-, hfilter, -, -⟩ := prepare_reports_first_fault broken {} {} false
  obtain ⟨-, -, hcatalog, hclean⟩ := prepare_reports_first_fault sound {} {} false
  obtain ⟨hbroken, hdisk⟩ :=
    hfilter [⟨.equals, "(", false⟩] ⟨.regex, "(", false⟩ [⟨.regex, ")", false⟩] rfl
      (List.forall_mem_singleton.mpr hequals) hpattern
  have hsound := hcatalog [⟨"known.json"⟩] ⟨"old.txt"⟩ [] _ (List.forall_mem_nil _) rfl
    (List.forall_mem_singleton.mpr hmissing) (.unknownFormat hformat)
  refine ⟨fun d => ?_, hsound, (hclean _ hsound).1⟩
  rw [hdisk d]
  exact hbroken

end VariantStrip
