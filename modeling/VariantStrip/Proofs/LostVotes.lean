/-
Rules whose votes are not counted.

* `findIdx?_eq_map_placeAmong` — a search that only some elements can end is a search among these,
  and `placeAmong` says where they stand in the whole list,
* `Engine.value_decide_of_muted` — rules that neither include nor strip may be left out,
* `Engine.unprepared_withoutCatalogs` — the other rules do not depend on those that are left out.

The main result is `votes_are_not_lost`: once a stripper is prepared every vote counts, and rules on
catalogs that are not prepared decide nothing.
-/
import Mathlib.Order.Monotone.Basic
import VariantStrip.Proofs.Unfailing

namespace VariantStrip

open Logged

/-! ### Leaving rules out -/

/-- Where the elements of a list that pass a test stand: the place of the one that has some position
among them. -/
def placeAmong {α : Type} (p : α → Bool) : List α → Nat → Nat
  | [], i => i
  | x :: xs, i =>
    if p x then
      match i with
      | 0 => 0
      | i + 1 => placeAmong p xs i + 1
    else placeAmong p xs i + 1

section

variable {α : Type} {p : α → Bool} {x : α}

theorem placeAmong_zero (hx : p x = true) (xs : List α) : placeAmong p (x :: xs) 0 = 0 := by
  simp [placeAmong, hx]

theorem placeAmong_succ (hx : p x = true) (xs : List α) (i : Nat) :
    placeAmong p (x :: xs) (i + 1) = placeAmong p xs i + 1 := by
  simp [placeAmong, hx]

theorem placeAmong_skip (hx : ¬ p x = true) (xs : List α) (i : Nat) :
    placeAmong p (x :: xs) i = placeAmong p xs i + 1 := by
  simp [placeAmong, hx]

theorem strictMono_placeAmong (xs : List α) : StrictMono (placeAmong p xs) := by
  induction xs with
  | nil => exact strictMono_id
  | cons x xs ih =>
    intro i j hij
    -- An element that passes has position zero; one that does not moves all places by one.
    by_cases hx : p x = true
    · obtain ⟨j, rfl⟩ : ∃ k, j = k + 1 := ⟨j - 1, by omega⟩
      rw [placeAmong_succ hx]
      cases i with
      | zero =>
        rw [placeAmong_zero hx]
        omega
      | succ i =>
        have hlt := ih (show i < j by omega)
        rw [placeAmong_succ hx]
        omega
    · have hlt := ih hij
      rw [placeAmong_skip hx, placeAmong_skip hx]
      omega

theorem getElem?_placeAmong (xs : List α) (i : Nat) :
    xs[placeAmong p xs i]? = (xs.filter p)[i]? := by
  induction xs generalizing i with
  | nil => rfl
  | cons x xs ih =>
    by_cases hx : p x = true
    · rw [List.filter_cons_of_pos hx]
      cases i with
      | zero => rw [placeAmong_zero hx, List.getElem?_cons_zero, List.getElem?_cons_zero]
      | succ i =>
        rw [placeAmong_succ hx, List.getElem?_cons_succ, List.getElem?_cons_succ]
        exact ih i
    · rw [List.filter_cons_of_neg hx, placeAmong_skip hx, List.getElem?_cons_succ]
      exact ih i

/-- The places are those of the elements that pass the test. -/
theorem mem_range_placeAmong {xs : List α} {i : Nat} (hi : xs[i]? = some x) :
    i ∈ Set.range (placeAmong p xs) ↔ p x = true := by
  induction xs generalizing i with
  | nil => cases hi
  | cons y xs ih =>
    by_cases hy : p y = true
    · cases i with
      | zero =>
        cases hi
        exact iff_of_true ⟨0, placeAmong_zero hy xs⟩ hy
      | succ i =>
        rw [← ih hi]
        constructor
        · rintro ⟨j, hj⟩
          cases j with
          | zero =>
            rw [placeAmong_zero hy] at hj
            omega
          | succ j =>
            rw [placeAmong_succ hy] at hj
            exact ⟨j, by omega⟩
        · rintro ⟨j, rfl⟩
          exact ⟨j + 1, placeAmong_succ hy xs j⟩
    · cases i with
      | zero =>
        cases hi
        refine iff_of_false ?_ hy
        rintro ⟨j, hj⟩
        rw [placeAmong_skip hy] at hj
        omega
      | succ i =>
        rw [← ih hi]
        constructor
        · rintro ⟨j, hj⟩
          rw [placeAmong_skip hy] at hj
          exact ⟨j, by omega⟩
        · rintro ⟨j, rfl⟩
          exact ⟨j, placeAmong_skip hy xs j⟩

/-- A search that only elements with the test can end is one among these. -/
theorem findIdx?_eq_map_placeAmong {q : α → Bool} {xs : List α}
    (hq : ∀ x ∈ xs, q x = true → p x = true) :
    xs.findIdx? q = ((xs.filter p).findIdx? q).map (placeAmong p xs) := by
  induction xs with
  | nil => rfl
  | cons x xs ih =>
    rw [List.forall_mem_cons] at hq
    have hrest := ih hq.2
    by_cases hx : p x = true
    · rw [List.filter_cons_of_pos hx, List.findIdx?_cons, List.findIdx?_cons]
      cases q x with
      | true => simp [placeAmong_zero hx]
      | false => simp [placeAmong_succ hx, hrest, Function.comp_def]
    · have hqx : q x = false := Bool.eq_false_iff.mpr (mt hq.1 hx)
      have hplace : placeAmong p (x :: xs) = (· + 1) ∘ placeAmong p xs :=
        funext (placeAmong_skip hx xs)
      rw [List.filter_cons_of_neg hx, List.findIdx?_cons, hqx, hrest, hplace]
      exact Option.map_map _ _ _

end

theorem firstPosition?_eq_map_placeAmong {P : Voter → Prop} [DecidablePred P] {p : Voter → Bool}
    {vs : List Voter} (hP : ∀ v ∈ vs, P v → p v = true) :
    firstPosition? P vs = (firstPosition? P (vs.filter p)).map (placeAmong p vs) :=
  findIdx?_eq_map_placeAmong fun v hv h => hP v hv (of_decide_eq_true h)

/-- A decision whose rules are counted in another way. -/
def Decision.renumbered (place : Nat → Nat) : Decision → Decision
  | alwaysIncluded => alwaysIncluded
  | kept includedBy => kept (includedBy.map place)
  | stripped i => stripped (place i)

/-- **Rules that neither include nor strip** may be left out. -/
theorem Engine.value_decide_of_muted {e : Engine} {p : Voter → Bool} {c : Context}
    (hmuted : ∀ v ∈ e.rules, ¬ p v = true → ¬ v.Includes c ∧ ¬ v.Strips c) :
    (e.decide c).value =
      ({ e with rules := e.rules.filter p }.decide c).value.renumbered
        (placeAmong p e.rules) := by
  have hstrips : ∀ v ∈ e.rules, v.Strips c → p v = true := by
    intro v hv hstrips
    by_contra hp
    exact (hmuted v hv hp).2 hstrips
  have hincludes : ∀ v ∈ e.rules, v.Includes c → p v = true := by
    intro v hv hincludes
    by_contra hp
    exact (hmuted v hv hp).1 hincludes
  -- Whether the shader bypasses the rules does not depend on the rules.
  have hsame : Engine.bypasses { e with rules := e.rules.filter p } c.host c.shader =
      e.bypasses c.host c.shader := rfl
  cases hbypass : e.bypasses c.host c.shader with
  | true =>
    rw [decide, if_pos hbypass, decide, if_pos (hsame.trans hbypass)]
    rfl
  | false =>
    rw [value_decide_eq hbypass, value_decide_eq (hsame.trans hbypass),
      firstPosition?_eq_map_placeAmong hstrips, firstPosition?_eq_map_placeAmong hincludes]
    cases firstPosition? (·.Strips c) (e.rules.filter p) with
    | none => rfl
    | some i => rfl

/-! ### Rules that are not loaded -/

namespace BuiltRule

variable [Pattern.Capacity]

/-- A rule is of the kind that its configuration asks for. -/
theorem kind_voter_ofSpec {b : BuildContext} {spec : RuleSpec} {rule : BuiltRule}
    (hrule : ofSpec b spec = .ok rule) (description : String) :
    (rule.voter description).kind = spec.kind := by
  cases spec with
  | stripKeywords o =>
    obtain ⟨development, -, hrest⟩ := bind_eq_ok_iff.mp hrule
    obtain ⟨release, -, h⟩ := bind_eq_ok_iff.mp hrest
    cases h
    rfl
  | includeShaderName fs | stripShaderName fs | stripShaderPath fs | stripPasses ps =>
    obtain ⟨ms, -, h⟩ := bind_eq_ok_iff.mp hrule
    cases h
    rfl
  | _ =>
    cases hrule
    rfl

/-- A rule on catalogs that are not loaded neither includes nor strips anything. -/
theorem muted_of_ofSpec {b : BuildContext} {spec : RuleSpec} {rule : BuiltRule}
    (hrule : ofSpec b spec = .ok rule) (hkind : spec.kind = .includeVariantCatalog)
    (description : String) (c : Context) :
    ¬ (rule.voter description).Includes c ∧ ¬ (rule.voter description).Strips c := by
  cases spec with
  | includeVariantCatalog o =>
    cases hrule
    constructor
    · rintro ⟨-, -, hvote⟩
      cases hvote
    · rintro ⟨-, -, hvote⟩
      cases hvote
  | _ => cases hkind

end BuiltRule

/-- The configuration without its rules on catalogs. -/
def StripperConfig.withoutCatalogs (c : StripperConfig) : StripperConfig :=
  { c with settings := { c.settings with
      rules := c.settings.rules.filter fun r => r.kind != .includeVariantCatalog } }

namespace Engine

variable [Pattern.Capacity]

/-- The engine of a configuration whose rules have been built, but not prepared. -/
def unprepared (c : StripperConfig) : Except StripError Engine :=
  (buildRules c.build c.settings.rules).map fun rules => ofRules rules c.settings c.development

/-- What a rule has become when it is built. -/
def Built (b : BuildContext) (r : Rule) (q : DescribedRule) : Prop :=
  ∃ rule, BuiltRule.ofSpec b r.spec = .ok rule ∧ q = ⟨r.description, rule⟩

theorem buildRules_eq_ok_iff {b : BuildContext} {rules : List Rule} {built : List DescribedRule} :
    buildRules b rules = .ok built ↔
      List.Forall₂ (Built b) (rules.filter (·.enabled)) built := by
  have hbuilt (r : Rule) (q : DescribedRule) :
      (do return ⟨r.description, ← BuiltRule.ofSpec b r.spec⟩ : Except StripError DescribedRule) =
        .ok q ↔ Built b r q := by
    rw [bind_eq_ok_iff]
    exact exists_congr fun rule => and_congr_right fun _ =>
      ⟨fun h => (Except.ok.inj h).symm, fun h => congrArg Except.ok h.symm⟩
  rw [buildRules, mapM_eq_ok_iff]
  simp only [hbuilt]

variable {c : StripperConfig} {e : Engine}

/-- Without the rules on catalogs the others are built as they are with them. -/
theorem unprepared_withoutCatalogs (he : unprepared c = .ok e) :
    unprepared c.withoutCatalogs =
      .ok { e with rules := e.rules.filter fun v => v.kind != .includeVariantCatalog } := by
  obtain ⟨built, hbuilt, rfl⟩ := map_eq_ok_iff.mp he
  have hkind : ∀ ⦃r q⦄, Built c.build r q →
      ((r.kind != .includeVariantCatalog) = true ↔
        (q.voter.kind != .includeVariantCatalog) = true) := by
    rintro r q ⟨rule, hrule, rfl⟩
    rw [DescribedRule.voter, BuiltRule.kind_voter_ofSpec hrule]
    rfl
  have hrest := List.rel_filter hkind (buildRules_eq_ok_iff.mp hbuilt)
  rw [List.filter_filter] at hrest
  refine map_eq_ok_iff.mpr
    ⟨built.filter fun q => q.voter.kind != .includeVariantCatalog,
      buildRules_eq_ok_iff.mpr ?_, ?_⟩
  · simp only [StripperConfig.withoutCatalogs, List.filter_filter]
    simpa only [Bool.and_comm] using hrest
  · simp only [ofRules, StripperConfig.withoutCatalogs, List.filter_map, Function.comp_def]

/-- Rules on catalogs that are not loaded have no say. -/
theorem muted_of_unprepared (he : unprepared c = .ok e) {v : Voter} (hv : v ∈ e.rules)
    (hkind : v.kind = .includeVariantCatalog) (x : Context) : ¬ v.Includes x ∧ ¬ v.Strips x := by
  obtain ⟨built, hbuilt, rfl⟩ := map_eq_ok_iff.mp he
  obtain ⟨q, hq, rfl⟩ := List.mem_map.mp hv
  obtain ⟨r, rule, hrule, rfl⟩ : ∃ r, Built c.build r q :=
    exists_of_mem_forall₂ (buildRules_eq_ok_iff.mp hbuilt) hq
  refine BuiltRule.muted_of_ofSpec hrule ?_ r.description x
  rw [← BuiltRule.kind_voter_ofSpec hrule r.description]
  exact hkind

end Engine

/-- **No vote is lost.**

* When a stripper has been prepared with success, and there is something to strip by, then every
  rule has an answer to every question about every candidate, and the engine gets it.  So decisions
  are made without a message, and no rule fails whatever is processed, and whatever the stripper is
  asked to do from then on.
* An engine whose rules have been built but not prepared decides as the one without the rules on
  catalogs does, but for the numbers of the rules: those that are not on catalogs keep their order.
  The rules on catalogs neither include nor strip anything. -/
theorem votes_are_not_lost [Pattern.Capacity] (s : Stripper) (d : Disk) (h : Host)
    (assetBundles : Bool) :
    ((s.prepare d h assetBundles).value.1 = .ok () →
      (s.prepare d h assetBundles).value.2.isEnabled = true →
      ∃ e, (s.prepare d h assetBundles).value.2.engine = some e ∧
        (∀ v ∈ e.rules, ∀ c q, ∃ b, v.answer c q = .ok b ∧ v.ask q c = pure b) ∧
        (∀ c, (e.decide c).log = []) ∧
        (∀ h shader snippet xs t, (e.process h shader snippet xs t).Unfailing) ∧
        ∀ ops, ((s.prepare d h assetBundles).value.2.performAll ops).Unfailing) ∧
    ∀ e, Engine.unprepared s.config = .ok e →
      (∀ v ∈ e.rules, v.kind = .includeVariantCatalog → ∀ c, ¬ v.Includes c ∧ ¬ v.Strips c) ∧
      ∃ e', Engine.unprepared s.config.withoutCatalogs = .ok e' ∧
        ∃ place : Nat → Nat, StrictMono place ∧
          (∀ i, e.rules[place i]? = e'.rules[i]?) ∧
          (∀ i v, e.rules[i]? = some v →
            (i ∈ Set.range place ↔ v.kind ≠ .includeVariantCatalog)) ∧
          ∀ c, (e.decide c).value = (e'.decide c).value.renumbered place := by
  constructor
  · intro _ henabled
    have hloaded : (s.prepare d h assetBundles).value.2.Loaded := s.loaded_prepare d h assetBundles
    obtain ⟨e, he⟩ := Option.isSome_iff_exists.mp henabled
    have hanswers : ∀ v ∈ e.rules, v.Answers := hloaded e he
    exact ⟨e, he, fun v hv => Voter.ask_of_answers (hanswers v hv),
      Engine.log_decide_of_answers hanswers, Engine.unfailing_process hanswers,
      Stripper.performAll_loaded hloaded⟩
  · intro e he
    have hmuted (c : Context) : ∀ v ∈ e.rules, ¬ (v.kind != .includeVariantCatalog) = true →
        ¬ v.Includes c ∧ ¬ v.Strips c := by
      intro v hv hkind
      exact Engine.muted_of_unprepared he hv (by simpa using hkind) c
    refine ⟨fun v hv hkind => Engine.muted_of_unprepared he hv hkind, _,
      Engine.unprepared_withoutCatalogs he,
      placeAmong (fun v => v.kind != .includeVariantCatalog) e.rules,
      strictMono_placeAmong e.rules, getElem?_placeAmong e.rules, fun i v hi => ?_,
      fun c => Engine.value_decide_of_muted (hmuted c)⟩
    rw [mem_range_placeAmong hi]
    exact bne_iff_ne

/-- A rule on a catalog between two others. -/
def fenStripper : Stripper where
  config := {
    settings := { rules := [
      { spec := .stripShaderName [{ matchType := .equals, pattern := "Bog" }] },
      { spec := .includeVariantCatalog {} },
      { spec := .stripPlatforms [.ps4] }] }
    build := { extraCatalogs := [⟨[⟨"Fen", [⟨.normal, ["A"]⟩]⟩]⟩] } }

/-- A host with one shader. -/
def fenHost : Host := .ofList [{ name := "Fen" }]

/-- A candidate that the catalog does not list, for a platform that is stripped. -/
def fenContext : Context where
  host := fenHost
  shader := ⟨0⟩
  shaderName := "Fen"
  snippet := ⟨.normal, "P"⟩
  candidate := ⟨["B"], .ps4, .tier1⟩
  development := false

theorem votes_are_not_lost_fen :
    (fenStripper.prepare {} fenHost false).value.1 = .ok () ∧
      (fenStripper.prepare {} fenHost false).value.2.isEnabled = true ∧
      (∃ e, (fenStripper.prepare {} fenHost false).value.2.engine = some e ∧
        (e.decide fenContext).value = .stripped 1 ∧ (e.decide fenContext).log = []) ∧
      ∃ e e', Engine.unprepared fenStripper.config = .ok e ∧
        Engine.unprepared fenStripper.config.withoutCatalogs = .ok e' ∧
        (e'.decide fenContext).value = .stripped 1 ∧
        ∃ place, StrictMono place ∧ (e.decide fenContext).value = .stripped (place 1) := by
  have hok : (fenStripper.prepare {} fenHost false).value.1 = .ok () := by decide +kernel
  have henabled : (fenStripper.prepare {} fenHost false).value.2.isEnabled = true := by
    decide +kernel
  obtain ⟨hprepared, hunprepared⟩ := votes_are_not_lost fenStripper {} fenHost false
  refine ⟨hok, henabled, ?_, ?_⟩
  · obtain ⟨e, he, -, hquiet, -, -⟩ := hprepared hok henabled
    have hstripped : (fenStripper.prepare {} fenHost false).value.2.engine.map
        (fun e => (e.decide fenContext).value) = some (.stripped 1) := by
      decide +kernel
    rw [he] at hstripped
    exact ⟨e, he, Option.some.inj hstripped, hquiet fenContext⟩
  · obtain ⟨e, he⟩ : ∃ e, Engine.unprepared fenStripper.config = .ok e := ⟨_, rfl⟩
    obtain ⟨-, e', he', place, hplace, -, -, hdecide⟩ := hunprepared e he
    have hstripped : (Engine.unprepared fenStripper.config.withoutCatalogs).map
        (fun e => (e.decide fenContext).value) = .ok (.stripped 1) := by
      decide +kernel
    rw [he'] at hstripped
    have hvalue : (e'.decide fenContext).value = .stripped 1 := Except.ok.inj hstripped
    refine ⟨e, e', he, he', hvalue, place, hplace, ?_⟩
    rw [hdecide, hvalue]
    rfl

end VariantStrip
