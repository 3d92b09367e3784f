/-
What is left of a pass depends on the set of the rules that can strip.

Rules are compared by what they ask for: one list of rules is covered by another if each of its
enabled rules with a vote to strip asks for what some enabled rule of the other one asks for
(`Settings.CoveredBy`).  Order, repetitions, descriptions, disabled rules and rules that can only
include do not occur in it.

* `RuleSpec.stripVote_of_strips` — what can only include strips nothing,
* `StripperConfig.spares_of_coveredBy` — what is spared under more rules is spared under fewer,
* `Stripper.survivors_eq_filter` — what is left is what is spared, with an engine or without.

The main result is `survivors_antitone`.
-/
import VariantStrip.Proofs.Meaning

namespace VariantStrip

/-- Only kinds that declare a vote to strip strip anything. -/
theorem RuleSpec.stripVote_of_strips [Pattern.Capacity] {w : Surroundings} {shader : ShaderId}
    {snippet : Snippet} {x : Candidate} {spec : RuleSpec} (h : spec.Strips w shader snippet x) :
    spec.kind.traits.stripVote = true := by
  cases spec with
  | includeShaderName names => exact h.elim
  | includeInternalShaders => exact h.elim
  | includeHiddenShaders => exact h.elim
  | _ => rfl

/-- Every enabled rule with a vote to strip asks for what an enabled rule of the other settings
asks for. -/
def Settings.CoveredBy (s t : Settings) : Prop :=
  ∀ r ∈ s.enabledRules, r.kind.traits.stripVote = true → ∃ q ∈ t.enabledRules, q.spec = r.spec

instance (s t : Settings) : Decidable (s.CoveredBy t) :=
  inferInstanceAs (Decidable (∀ r ∈ s.enabledRules, _ → ∃ q ∈ t.enabledRules, _))

namespace Settings

theorem coveredBy_of_rules_subset {s t : Settings} (h : s.rules ⊆ t.rules) : s.CoveredBy t := by
  intro r hr _
  rw [enabledRules, List.mem_filter] at hr
  exact ⟨r, List.mem_filter.mpr ⟨h hr.1, hr.2⟩, rfl⟩

end Settings

/-- Under fewer rules more is spared. -/
theorem StripperConfig.spares_of_coveredBy [Pattern.Capacity] {c₁ c₂ : StripperConfig}
    (hbuild : c₁.build = c₂.build) (hdevelopment : c₁.development = c₂.development)
    (hbypass : c₁.settings.processAlwaysIncluded = c₂.settings.processAlwaysIncluded)
    (hcovered : c₁.settings.CoveredBy c₂.settings) {d : Disk} {h : Host} {shader : ShaderId}
    {snippet : Snippet} {x : Candidate} (hspares : c₂.Spares d h shader snippet x) :
    c₁.Spares d h shader snippet x := by
  rw [Spares, hbuild, hdevelopment, hbypass]
  refine hspares.imp_right fun hnone r hr hstrips => ?_
  obtain ⟨q, hq, hspec⟩ := hcovered r hr (RuleSpec.stripVote_of_strips hstrips)
  rw [← hspec] at hstrips
  exact hnone q hq hstrips

namespace Stripper

variable [Pattern.Capacity]

/-- What is left of a pass when a stripper has been prepared, and some tally has been counted. -/
def survivors (s : Stripper) (d : Disk) (h : Host) (assetBundles : Bool) (t : Tally)
    (shader : ShaderId) (snippet : Snippet) (xs : List Candidate) : List Candidate :=
  ({ (s.prepare d h assetBundles).value.2 with tally := t }.process h shader snippet xs).value.1

/-- What is left is what is spared, also when there is no engine. -/
theorem survivors_eq_filter {s : Stripper} {d : Disk} {h : Host} {assetBundles : Bool}
    (hok : (s.prepare d h assetBundles).value.1 = .ok ()) (shader : ShaderId)
    (snippet : Snippet) :
    ∃ keep : Candidate → Bool,
      (∀ x, keep x = true ↔ s.config.Spares d h shader snippet x) ∧
        ∀ t xs, s.survivors d h assetBundles t shader snippet xs = xs.filter keep := by
  obtain ⟨ready, hready, hprepared⟩ := prepare_ok hok
  refine ⟨_, keeps_iff_spares hready shader snippet, fun t xs => ?_⟩
  rw [survivors, hprepared]
  exact value_process_engineOf { config := s.config, kind := .ofFlag assetBundles } ready t h
    shader snippet xs

/-- Without enabled rules there is no engine, and everything is left. -/
theorem survivors_of_enabledRules_eq_nil {s : Stripper} {d : Disk} {h : Host} {assetBundles : Bool}
    (hok : (s.prepare d h assetBundles).value.1 = .ok ())
    (hnone : s.config.settings.enabledRules = []) :
    (s.prepare d h assetBundles).value.2.isEnabled = false ∧
      ∀ t shader snippet xs, s.survivors d h assetBundles t shader snippet xs = xs := by
  obtain ⟨ready, hready, hprepared⟩ := prepare_ok hok
  rw [hnone, List.forall₂_nil_left_iff] at hready
  refine ⟨by rw [hprepared, hready]; rfl, fun t shader snippet xs => ?_⟩
  rw [survivors, hprepared, hready]
  rfl

end Stripper

/-- **More rules leave less.**  Two strippers with the same bypass flag, build context and kind of
build are prepared for the same host.

* If the rules of the first are covered by those of the second, then what the second leaves of a
  pass is a sublist of what the first leaves, whatever either has counted before.
* If they cover each other, both leave the same.
* In particular rules that are added leave nothing more, and rules that are removed nothing less.
* If the first enables no rule there is no engine, and it leaves everything. -/
theorem survivors_antitone [Pattern.Capacity] (s₁ s₂ : Stripper) (d : Disk) (h : Host)
    (assetBundles : Bool) (hbuild : s₁.config.build = s₂.config.build)
    (hdevelopment : s₁.config.development = s₂.config.development)
    (hbypass : s₁.config.settings.processAlwaysIncluded = s₂.config.settings.processAlwaysIncluded)
    (hok₁ : (s₁.prepare d h assetBundles).value.1 = .ok ())
    (hok₂ : (s₂.prepare d h assetBundles).value.1 = .ok ()) (t₁ t₂ : Tally) (shader : ShaderId)
    (snippet : Snippet) (xs : List Candidate) :
    let left₁ := s₁.survivors d h assetBundles t₁ shader snippet xs
    let left₂ := s₂.survivors d h assetBundles t₂ shader snippet xs
    (s₁.config.settings.CoveredBy s₂.config.settings → left₂.Sublist left₁) ∧
      (s₁.config.settings.CoveredBy s₂.config.settings →
        s₂.config.settings.CoveredBy s₁.config.settings → left₂ = left₁) ∧
      (s₁.config.settings.rules ⊆ s₂.config.settings.rules → left₂.Sublist left₁) ∧
      (s₁.config.settings.enabledRules = [] →
        (s₁.prepare d h assetBundles).value.2.isEnabled = false ∧ left₁ = xs) := by
  obtain ⟨keep₁, hkeep₁, hleft₁⟩ := Stripper.survivors_eq_filter hok₁ shader snippet
  obtain ⟨keep₂, hkeep₂, hleft₂⟩ := Stripper.survivors_eq_filter hok₂ shader snippet
  intro left₁ left₂
  have hsublist (hcovered : s₁.config.settings.CoveredBy s₂.config.settings) :
      left₂.Sublist left₁ := by
    simp only [left₁, left₂, hleft₁, hleft₂]
    refine List.monotone_filter_right xs fun x hx => ?_
    rw [hkeep₁]
    exact StripperConfig.spares_of_coveredBy hbuild hdevelopment hbypass hcovered
      ((hkeep₂ x).mp hx)
  refine ⟨hsublist, fun hcovered hcovered' => ?_,
    fun hsubset => hsublist (Settings.coveredBy_of_rules_subset hsubset), fun hnone => ?_⟩
  · simp only [left₁, left₂, hleft₁, hleft₂]
    refine List.filter_congr fun x _ => ?_
    rw [Bool.eq_iff_iff, hkeep₁, hkeep₂]
    exact ⟨StripperConfig.spares_of_coveredBy hbuild hdevelopment hbypass hcovered,
      StripperConfig.spares_of_coveredBy hbuild.symm hdevelopment.symm hbypass.symm hcovered'⟩
  · obtain ⟨hdisabled, hall⟩ := Stripper.survivors_of_enabledRules_eq_nil hok₁ hnone
    exact ⟨hdisabled, hall t₁ shader snippet xs⟩

/-- Two rules that strip, one of them twice. -/
def duneStripper : Stripper where
  config := { settings := { rules := [
    { spec := .stripPlatforms [.ps4] }, { spec := .stripShaderName [{ pattern := "Sea*" }] },
    { description := "again", spec := .stripPlatforms [.ps4] }] } }

/-- The same rules once and in another order, beside one more that strips, one that is disabled and
one that includes. -/
def dunesStripper : Stripper where
  config := { settings := { rules := [
    { spec := .includeShaderName [{}] }, { spec := .stripShaderName [{ pattern := "Sea*" }] },
    { enabled := false, spec := .stripPlatforms [.d3d] },
    { spec := .stripKeywords { stripFog := true } },
    { spec := .stripPlatforms [.ps4] }] } }

/-- A host with one shader. -/
def duneHost : Host := .ofList [{ name := "Dune" }]

theorem survivors_antitone_dune :
    duneStripper.config.settings.CoveredBy dunesStripper.config.settings ∧
      (dunesStripper.survivors {} duneHost false {} ⟨0⟩ ⟨.normal, "P"⟩
        [⟨["A"], .d3d, .tier1⟩, ⟨["FOG_EXP"], .d3d, .tier1⟩, ⟨["A"], .ps4, .tier1⟩]).Sublist
      (duneStripper.survivors {} duneHost false {} ⟨0⟩ ⟨.normal, "P"⟩
        [⟨["A"], .d3d, .tier1⟩, ⟨["FOG_EXP"], .d3d, .tier1⟩, ⟨["A"], .ps4, .tier1⟩]) := by
  have hcovered : duneStripper.config.settings.CoveredBy dunesStripper.config.settings := by
    decide +kernel
  exact ⟨hcovered, (survivors_antitone duneStripper dunesStripper {} duneHost false rfl rfl rfl
    (by decide +kernel) (by decide +kernel) {} {} ⟨0⟩ ⟨.normal, "P"⟩ _).1 hcovered⟩

end VariantStrip
