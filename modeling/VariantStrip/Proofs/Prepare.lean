/-
What preparing for a build leads to.

Preparing has two phases, which both go through the enabled rules in order and stop at the first
failure: the filters of every rule are compiled, then the catalogs of every rule are loaded.

* `Engine.value_prepareRules` and `value_loadCatalogs` — both loops without their messages,
* `Stripper.Readied` — what a rule has become when both phases are over,
* `Stripper.prepare_ok` — after a success the engine consists of the readied rules, in order, and
  nothing has been counted.
-/
import VariantStrip.Proofs.Decision
import VariantStrip.Proofs.Fallible
import VariantStrip.Stripper

namespace VariantStrip

/-! ### The phases without their messages -/

/-- Loading catalogs reads them in order and passes over those that do not exist. -/
theorem value_loadCatalogs (d : Disk) (ps : List Path) :
    (loadCatalogs d ps).value = (ps.mapM (Catalog.load d)).map (·.filterMap id) := by
  induction ps with
  | nil => rfl
  | cons p ps ih =>
    unfold loadCatalogs
    rw [List.mapM_cons]
    cases Catalog.load d p with
    | error e => rfl
    | ok c =>
      cases c with
      | none =>
        simp only [Logged.value_bind, ih]
        cases ps.mapM (Catalog.load d) <;> rfl
      | some c =>
        simp only [Logged.value_bind, Logged.value_pure, ih]
        cases ps.mapM (Catalog.load d) <;> rfl

theorem loadCatalogs_ok {d : Disk} {ps : List Path} {cs : List Catalog}
    (h : (loadCatalogs d ps).value = .ok cs) :
    cs = ps.filterMap fun p => (Catalog.load d p).toOption.join := by
  rw [value_loadCatalogs] at h
  obtain ⟨found, hfound, rfl⟩ := map_eq_ok_iff.mp h
  have hloaded := mapM_eq_ok_iff.mp hfound
  clear h hfound
  induction hloaded with
  | nil => rfl
  | @cons p c ps found hp _ ih =>
    rw [List.filterMap_cons, List.filterMap_cons, hp, ih]
    cases c <;> rfl

namespace Engine

/-- What a rule becomes when what it needs is loaded. -/
def readied (d : Disk) (h : Host) (r : DescribedRule) : Except StripError DescribedRule :=
  (r.rule.prepare d h).value.map fun rule => ⟨r.description, rule⟩

theorem value_prepareRules (d : Disk) (h : Host) (rs : List DescribedRule) :
    (prepareRules d h rs).value = rs.mapM (readied d h) := by
  induction rs with
  | nil => rfl
  | cons r rs ih =>
    rw [prepareRules, List.mapM_cons, readied]
    simp only [Logged.value_bind]
    cases (r.rule.prepare d h).value with
    | error e => rfl
    | ok rule =>
      simp only [Logged.value_bind, Logged.value_pure, ih]
      cases rs.mapM (readied d h) <;> rfl

end Engine

/-! ### Success -/

namespace Stripper

/-- What a configured rule has become when its filters are compiled and its catalogs are loaded. -/
def Readied [Pattern.Capacity] (b : BuildContext) (d : Disk) (h : Host) (r : Rule)
    (q : DescribedRule) : Prop :=
  q.description = r.description ∧
    ∃ rule, BuiltRule.ofSpec b r.spec = .ok rule ∧ (rule.prepare d h).value = .ok q.rule

theorem forall₂_readied [Pattern.Capacity] {b : BuildContext} {d : Disk} {h : Host}
    {rules : List Rule} {built ready : List DescribedRule}
    (hbuilt : Engine.buildRules b rules = .ok built)
    (hready : (Engine.prepareRules d h built).value = .ok ready) :
    List.Forall₂ (Readied b d h) (rules.filter (·.enabled)) ready := by
  rw [Engine.value_prepareRules, mapM_eq_ok_iff] at hready
  refine (forall₂_comp (mapM_eq_ok_iff.mp hbuilt) hready).imp fun r q ⟨p, hp, hq⟩ => ?_
  obtain ⟨rule, hrule, h'⟩ := bind_eq_ok_iff.mp hp
  cases h'
  obtain ⟨prepared, hprepared, rfl⟩ := map_eq_ok_iff.mp hq
  exact ⟨rfl, rule, hrule, hprepared⟩

/-- The engine of some rules; without rules there is none. -/
def engineOf (c : StripperConfig) (ready : List DescribedRule) : Option Engine :=
  if ready = [] then none else some (.ofRules ready c.settings c.development)

theorem engineFor_ok [Pattern.Capacity] {c : StripperConfig} {kind : BuildKind} {d : Disk}
    {h : Host} {engine : Option Engine} (hok : (engineFor c kind d h).value = .ok engine) :
    ∃ ready, List.Forall₂ (Readied c.build d h) c.settings.enabledRules ready ∧
      engine = engineOf c ready := by
  rw [engineFor] at hok
  cases hbuilt : Engine.buildRules c.build c.settings.rules with
  | error e =>
    rw [hbuilt] at hok
    cases hok
  | ok built =>
    rw [hbuilt] at hok
    cases built with
    | nil =>
      cases hok
      exact ⟨[], forall₂_readied hbuilt rfl, rfl⟩
    | cons p ps =>
      simp only [Logged.value_bind] at hok
      cases hready : (Engine.prepareRules d h (p :: ps)).value with
      | error e =>
        rw [hready] at hok
        cases hok
      | ok ready =>
        rw [hready] at hok
        cases hok
        refine ⟨ready, forall₂_readied hbuilt hready, ?_⟩
        -- Readying rules loses none of them.
        rw [engineOf, if_neg]
        rintro rfl
        rw [Engine.value_prepareRules, mapM_eq_ok_iff] at hready
        cases hready

/-- After a success the engine consists of the readied rules, and nothing has been counted. -/
theorem prepare_ok [Pattern.Capacity] {s : Stripper} {d : Disk} {h : Host} {assetBundles : Bool}
    (hok : (s.prepare d h assetBundles).value.1 = .ok ()) :
    ∃ ready, List.Forall₂ (Readied s.config.build d h) s.config.settings.enabledRules ready ∧
      (s.prepare d h assetBundles).value.2 =
        { config := s.config, kind := .ofFlag assetBundles
          engine := engineOf s.config ready } := by
  rw [prepare] at hok ⊢
  simp only [Logged.value_bind] at hok ⊢
  cases hengine : (engineFor s.config (.ofFlag assetBundles) d h).value with
  | error e =>
    rw [hengine] at hok
    cases hok
  | ok engine =>
    obtain ⟨ready, hready, rfl⟩ := engineFor_ok hengine
    exact ⟨ready, hready, rfl⟩

/-- Without rules every candidate is kept, as it is without an engine. -/
theorem value_process_engineOf (s : Stripper) (ready : List DescribedRule) (t : Tally) (h : Host)
    (shader : ShaderId) (snippet : Snippet) (xs : List Candidate) :
    ({ s with engine := engineOf s.config ready, tally := t }.process h shader snippet xs).value.1 =
      xs.filter ((Engine.ofRules ready s.config.settings s.config.development).keeps h shader
        snippet) := by
  by_cases hnil : ready = []
  · -- There is no engine, and an engine without rules would keep everything.
    have hkeeps : ∀ x ∈ xs, (Engine.ofRules ready s.config.settings
        s.config.development).keeps h shader snippet x = true := by
      intro x _
      rw [Engine.keeps_iff]
      exact .inr (by simp [Engine.ofRules, hnil])
    rw [List.filter_eq_self.mpr hkeeps, process, engineOf, if_pos hnil]
    rfl
  · rw [process, engineOf, if_neg hnil]
    exact Engine.value_process_fst _ h shader snippet xs t

end Stripper

end VariantStrip
