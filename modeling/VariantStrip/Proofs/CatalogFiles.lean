/-
Preparing looks at the disk for catalogs only.

The catalogs of a build are those that its enabled rules name (`StripperConfig.catalogPaths`), and
a rule that has been built looks for no others (`BuiltRule.sources_ofSpec`).  So two disks with the
same catalogs prepare alike: `Stripper.value_prepare_congr`.
-/
import VariantStrip.Command.Lookup
import VariantStrip.Proofs.Prepare

namespace VariantStrip

/-- The catalogs that the enabled rules name. -/
def StripperConfig.catalogPaths (c : StripperConfig) : List Path :=
  c.settings.enabledRules.flatMap fun r => r.spec.catalogs.map c.build.resolve

/-- Two disks have the same catalogs: loading one of them leads to the same. -/
def StripperConfig.SameCatalogs (c : StripperConfig) (d d' : Disk) : Prop :=
  ∀ p ∈ c.catalogPaths, Catalog.load d p = Catalog.load d' p

theorem value_loadCatalogs_congr {d d' : Disk} {ps : List Path}
    (hsame : ∀ p ∈ ps, Catalog.load d p = Catalog.load d' p) :
    (loadCatalogs d ps).value = (loadCatalogs d' ps).value := by
  have hmap : ps.mapM (Catalog.load d) = ps.mapM (Catalog.load d') := by
    induction ps with
    | nil => rfl
    | cons p ps ih =>
      rw [List.forall_mem_cons] at hsame
      rw [List.mapM_cons, List.mapM_cons, hsame.1, ih hsame.2]
  rw [value_loadCatalogs, value_loadCatalogs, hmap]

namespace BuiltRule

/-- The catalogs that a rule is going to load. -/
def sources : BuiltRule → List Path
  | variantCatalog r => r.sources
  | _ => []

/-- A rule that has been built loads the catalogs that its configuration names. -/
theorem sources_ofSpec [Pattern.Capacity] {b : BuildContext} {spec : RuleSpec} {rule : BuiltRule}
    (hrule : ofSpec b spec = .ok rule) : rule.sources = spec.catalogs.map b.resolve := by
  cases spec with
  | includeVariantCatalog o =>
    cases hrule
    rfl
  | stripKeywords o =>
    obtain ⟨development, -, hrest⟩ := bind_eq_ok_iff.mp hrule
    obtain ⟨release, -, h⟩ := bind_eq_ok_iff.mp hrest
    cases h
    rfl
  | includeShaderName fs | stripShaderName fs | stripShaderPath fs | stripPasses ps =>
    obtain ⟨ms, -, h⟩ := bind_eq_ok_iff.mp hrule
    cases h
    rfl
  | _ =>
    cases hrule
    rfl

theorem value_prepare_congr {rule : BuiltRule} {d d' : Disk}
    (hsame : ∀ p ∈ rule.sources, Catalog.load d p = Catalog.load d' p) (h : Host) :
    (rule.prepare d h).value = (rule.prepare d' h).value := by
  cases rule with
  | variantCatalog r =>
    have hloaded : (loadCatalogs d r.sources).value = (loadCatalogs d' r.sources).value :=
      value_loadCatalogs_congr hsame
    have hready : (r.prepare d h).value = (r.prepare d' h).value := by
      simp only [CatalogRule.prepare, Logged.value_bind, hloaded]
    simp only [prepare, Logged.value_bind, hready, Logged.value_pure]
  | _ => rfl

end BuiltRule

namespace Engine

theorem value_prepareRules_congr {d d' : Disk} {rs : List DescribedRule}
    (hsame : ∀ r ∈ rs, ∀ p ∈ r.rule.sources, Catalog.load d p = Catalog.load d' p) (h : Host) :
    (prepareRules d h rs).value = (prepareRules d' h rs).value := by
  rw [value_prepareRules, value_prepareRules]
  induction rs with
  | nil => rfl
  | cons r rs ih =>
    rw [List.forall_mem_cons] at hsame
    rw [List.mapM_cons, List.mapM_cons, ih hsame.2, readied, readied,
      BuiltRule.value_prepare_congr hsame.1]

/-- The rules of a build load the catalogs of the build, in order. -/
theorem catalogPaths_eq_of_buildRules [Pattern.Capacity] {c : StripperConfig}
    {built : List DescribedRule} (hbuilt : buildRules c.build c.settings.rules = .ok built) :
    c.catalogPaths = built.flatMap (·.rule.sources) := by
  refine flatMap_eq_flatMap_of_forall₂ ((mapM_eq_ok_iff.mp hbuilt).imp fun r q hrq => ?_)
  obtain ⟨rule, hrule, h⟩ := bind_eq_ok_iff.mp hrq
  cases h
  exact (BuiltRule.sources_ofSpec hrule).symm

theorem sources_buildRules [Pattern.Capacity] {c : StripperConfig} {built : List DescribedRule}
    (hbuilt : buildRules c.build c.settings.rules = .ok built) :
    ∀ q ∈ built, ∀ p ∈ q.rule.sources, p ∈ c.catalogPaths := by
  intro q hq p hp
  rw [catalogPaths_eq_of_buildRules hbuilt]
  exact List.mem_flatMap.mpr ⟨q, hq, hp⟩

end Engine

namespace Stripper

/-- **Preparing looks for catalogs only.**  It leads to the same on disks with the same catalogs. -/
theorem value_prepare_congr [Pattern.Capacity] {s : Stripper} {d d' : Disk}
    (hsame : s.config.SameCatalogs d d') (h : Host) (assetBundles : Bool) :
    (s.prepare d h assetBundles).value = (s.prepare d' h assetBundles).value := by
  have hengine : (engineFor s.config (.ofFlag assetBundles) d h).value =
      (engineFor s.config (.ofFlag assetBundles) d' h).value := by
    rw [engineFor, engineFor]
    cases hbuilt : Engine.buildRules s.config.build s.config.settings.rules with
    | error e => rfl
    | ok built =>
      have hready : (Engine.prepareRules d h built).value =
          (Engine.prepareRules d' h built).value :=
        Engine.value_prepareRules_congr
          (fun q hq p hp => hsame p (Engine.sources_buildRules hbuilt q hq p hp)) h
      cases built with
      | nil => rfl
      | cons q qs => simp only [Logged.value_bind, hready]
  simp only [prepare, Logged.value_bind, hengine]

end Stripper

end VariantStrip
