/-
How the votes of rules make a decision.

A decision depends on two sets of positions only, those of the rules that strip the variant and
those of the rules that include it (`positions`):

* `Engine.value_decide_eq_stripped_iff` — the variant is stripped by the first rule that strips it,
* `Engine.value_decide_eq_kept_iff` — it is kept if there is none, and the first rule that includes
  it is named,
* `Engine.value_decide_congr` — rules that vote alike decide alike.

So the order of the rules does not matter for what is kept, hooks that a kind does not declare do
not matter at all, and a hook that fails is one that says no.  The main result is
`decision_of_votes`.
-/
import Mathlib.Order.Bounds.Basic
import VariantStrip.Proofs.Decision

namespace VariantStrip

/-- The positions of the rules of a list with some property. -/
def positions (p : Voter → Prop) (vs : List Voter) : Set Nat :=
  {i | ∃ v, vs[i]? = some v ∧ p v}

/-- The first of these positions, if there is one. -/
def firstPosition? (p : Voter → Prop) [DecidablePred p] (vs : List Voter) : Option Nat :=
  vs.findIdx? fun v => decide (p v)

theorem firstPosition?_eq_some_iff {p : Voter → Prop} [DecidablePred p] {vs : List Voter}
    {i : Nat} : firstPosition? p vs = some i ↔ IsLeast (positions p vs) i := by
  rw [firstPosition?, List.findIdx?_eq_some_iff_getElem]
  constructor
  · rintro ⟨hlt, hp, hbefore⟩
    refine ⟨⟨vs[i], List.getElem?_eq_getElem hlt, of_decide_eq_true hp⟩, ?_⟩
    rintro j ⟨v, hv, hpv⟩
    by_contra hij
    have hji : j < i := Nat.lt_of_not_le hij
    obtain ⟨hj, rfl⟩ := List.getElem?_eq_some_iff.mp hv
    exact hbefore j hji (decide_eq_true hpv)
  · rintro ⟨⟨v, hv, hpv⟩, hleast⟩
    obtain ⟨hlt, rfl⟩ := List.getElem?_eq_some_iff.mp hv
    refine ⟨hlt, decide_eq_true hpv, fun j hji hpj => ?_⟩
    have hj : j < vs.length := Nat.lt_trans hji hlt
    have hle : i ≤ j :=
      hleast ⟨vs[j], List.getElem?_eq_getElem hj, of_decide_eq_true hpj⟩
    omega

theorem firstPosition?_eq_none_iff {p : Voter → Prop} [DecidablePred p] {vs : List Voter} :
    firstPosition? p vs = none ↔ ∀ v ∈ vs, ¬ p v := by
  simp [firstPosition?, List.findIdx?_eq_none_iff]

theorem firstPosition?_congr {p : Voter → Prop} [DecidablePred p] {vs ws : List Voter}
    (h : positions p vs = positions p ws) : firstPosition? p vs = firstPosition? p ws := by
  refine Option.ext fun i => ?_
  rw [firstPosition?_eq_some_iff, h, firstPosition?_eq_some_iff]

theorem positions_congr {p : Voter → Prop} {vs ws : List Voter}
    (h : List.Forall₂ (fun v w => p v ↔ p w) vs ws) : positions p vs = positions p ws := by
  ext i
  induction h generalizing i with
  | nil => exact Iff.rfl
  | @cons v w vs ws hvw _ ih =>
    cases i with
    | zero => simpa [positions] using hvw
    | succ i => simpa [positions] using ih i

/-! ### Rules that vote alike -/

namespace Voter

/-- A hook in place of another: it gives the same answer, or says no where the other one fails. -/
def Stands (new old : Context → Except StripError Bool) : Prop :=
  ∀ c, new c = old c ∨ (∃ e, old c = .error e) ∧ new c = .ok false

/-- A rule in place of another of the same kind.  Each hook that the kind declares stands for the
one of the other rule; nothing is said about the hooks that it does not declare. -/
structure Replaces (new old : Voter) : Prop where
  kind : new.kind = old.kind
  inScope : old.kind.traits.scopeGate = true → Stands new.inScope old.inScope
  votesInclude : old.kind.traits.includeVote = true → Stands new.votesInclude old.votesInclude
  votesStrip : old.kind.traits.stripVote = true → Stands new.votesStrip old.votesStrip

/-- A hook says yes exactly where the one that it stands for says so. -/
theorem Stands.eq_true_iff {new old : Context → Except StripError Bool} (h : Stands new old)
    (c : Context) : new c = .ok true ↔ old c = .ok true := by
  rcases h c with heq | ⟨⟨e, hold⟩, hnew⟩
  · rw [heq]
  · rw [hold, hnew]
    exact iff_of_false nofun nofun

namespace Replaces

variable {new old : Voter}

theorem inScope_iff (h : new.Replaces old) (c : Context) : new.InScope c ↔ old.InScope c := by
  rw [InScope, InScope, h.kind]
  exact imp_congr_right fun hgate => (h.inScope hgate).eq_true_iff c

theorem includes_iff (h : new.Replaces old) (c : Context) : new.Includes c ↔ old.Includes c := by
  rw [Includes, Includes, h.kind]
  exact and_congr (h.inScope_iff c)
    (and_congr_right fun hvote => (h.votesInclude hvote).eq_true_iff c)

theorem strips_iff (h : new.Replaces old) (c : Context) : new.Strips c ↔ old.Strips c := by
  rw [Strips, Strips, h.kind]
  exact and_congr (h.inScope_iff c)
    (and_congr_right fun hvote => (h.votesStrip hvote).eq_true_iff c)

end Replaces

end Voter

/-! ### The decision of an engine -/

namespace Engine

/-- A shader that does not bypass the rules is decided about by them. -/
theorem decide_of_not_bypasses {e : Engine} {c : Context}
    (hbypass : e.bypasses c.host c.shader = false) : e.decide c = decideFrom c 0 none e.rules := by
  rw [decide, if_neg]
  rw [hbypass]
  exact Bool.false_ne_true

/-- The decision in terms of the first rules that strip and include the variant. -/
theorem value_decide_eq {e : Engine} {c : Context}
    (hbypass : e.bypasses c.host c.shader = false) :
    (e.decide c).value =
      match firstPosition? (·.Strips c) e.rules with
      | some i => .stripped i
      | none => .kept (firstPosition? (·.Includes c) e.rules) := by
  rw [decide_of_not_bypasses hbypass, value_decideFrom]
  -- The fold counts its rules from zero, and no rule has voted before it.
  simp only [Nat.zero_add, Option.none_or, Option.map_id']
  rfl

theorem value_decide_eq_stripped_iff {e : Engine} {c : Context}
    (hbypass : e.bypasses c.host c.shader = false) (i : Nat) :
    (e.decide c).value = .stripped i ↔ IsLeast (positions (·.Strips c) e.rules) i := by
  rw [← firstPosition?_eq_some_iff, value_decide_eq hbypass]
  cases firstPosition? (·.Strips c) e.rules with
  | none => simp
  | some j => simp

theorem value_decide_eq_kept_iff {e : Engine} {c : Context}
    (hbypass : e.bypasses c.host c.shader = false) (o : Option Nat) :
    (e.decide c).value = .kept o ↔
      (∀ v ∈ e.rules, ¬ v.Strips c) ∧
        ∀ i, o = some i ↔ IsLeast (positions (·.Includes c) e.rules) i := by
  have hfirst : (∀ i, o = some i ↔ firstPosition? (·.Includes c) e.rules = some i) ↔
      firstPosition? (·.Includes c) e.rules = o :=
    ⟨fun h => (Option.ext h).symm, fun h i => by rw [h]⟩
  simp only [← firstPosition?_eq_none_iff, ← firstPosition?_eq_some_iff, hfirst,
    value_decide_eq hbypass]
  cases firstPosition? (·.Strips c) e.rules with
  | none => simp
  | some j => simp

theorem isKept_decide_iff {e : Engine} {c : Context}
    (hbypass : e.bypasses c.host c.shader = false) :
    (e.decide c).value.isKept = true ↔ ∀ v ∈ e.rules, ¬ v.Strips c := by
  rw [decide_of_not_bypasses hbypass, isKept_decideFrom]

/-- **Rules that vote alike** decide alike. -/
theorem value_decide_congr {e e' : Engine} {c : Context}
    (hbypass : e.bypasses c.host c.shader = false)
    (hbypass' : e'.bypasses c.host c.shader = false)
    (hstrips : positions (·.Strips c) e.rules = positions (·.Strips c) e'.rules)
    (hincludes : positions (·.Includes c) e.rules = positions (·.Includes c) e'.rules) :
    (e.decide c).value = (e'.decide c).value := by
  rw [value_decide_eq hbypass, value_decide_eq hbypass', firstPosition?_congr hstrips,
    firstPosition?_congr hincludes]

end Engine

/-- **The votes make the decision.**  About a variant of a shader that does not bypass the rules,
the first rule that strips it decides, and if there is none the variant is kept, with the name of
the first rule that includes it.  So

* the order of the rules does not matter for what is kept,
* replacing hooks that a kind does not declare, or a hook that fails by one that says no, changes
  no decision,
* a variant that some rule strips is not kept, whatever the rules include,
* without rules every variant is kept. -/
theorem decision_of_votes (e : Engine) (c : Context)
    (hbypass : e.bypasses c.host c.shader = false) :
    (∀ i, (e.decide c).value = .stripped i ↔ IsLeast (positions (·.Strips c) e.rules) i) ∧
      (∀ o, (e.decide c).value = .kept o ↔
        (∀ v ∈ e.rules, ¬ v.Strips c) ∧
          ∀ i, o = some i ↔ IsLeast (positions (·.Includes c) e.rules) i) ∧
      (∀ vs, vs.Perm e.rules →
        ({ e with rules := vs }.decide c).value.isKept = (e.decide c).value.isKept) ∧
      (∀ vs, List.Forall₂ Voter.Replaces vs e.rules →
        ({ e with rules := vs }.decide c).value = (e.decide c).value) ∧
      ((∃ v ∈ e.rules, v.Strips c) → (e.decide c).value.isKept = false) ∧
      ({ e with rules := [] }.decide c).value = .kept none := by
  -- Whether the shader bypasses the rules does not depend on the rules.
  have hbypass' (vs : List Voter) :
      Engine.bypasses { e with rules := vs } c.host c.shader = false := hbypass
  refine ⟨Engine.value_decide_eq_stripped_iff hbypass, Engine.value_decide_eq_kept_iff hbypass,
    fun vs hperm => ?_, fun vs hreplaces => ?_, ?_, ?_⟩
  · rw [Bool.eq_iff_iff, Engine.isKept_decide_iff hbypass, Engine.isKept_decide_iff (hbypass' vs)]
    simp only [hperm.mem_iff]
  · exact Engine.value_decide_congr (hbypass' vs) hbypass
      (positions_congr (hreplaces.imp fun _ _ h => h.strips_iff c))
      (positions_congr (hreplaces.imp fun _ _ h => h.includes_iff c))
  · rintro ⟨v, hv, hstrips⟩
    rw [← Bool.not_eq_true, Engine.isKept_decide_iff hbypass]
    exact fun h => h v hv hstrips
  · rw [Engine.value_decide_eq (hbypass' [])]
    rfl

/-- A context with a shader that is not part of every build. -/
def reefContext : Context where
  host := .ofList [{ name := "Reef" }]
  shader := ⟨0⟩
  shaderName := "Reef"
  snippet := ⟨.normal, "P"⟩
  candidate := ⟨["A"], .d3d, .tier1⟩
  development := false

/-- A rule out of scope, since its gate fails; one that includes and fails to strip; one whose
kind has no vote to strip; and two that strip. -/
def reefEngine : Engine where
  rules := [
    { kind := .stripHiddenShaders, inScope := fun _ => .error (.host "none")
      votesStrip := fun _ => .ok true },
    { kind := .includeVariantCatalog, votesInclude := fun _ => .ok true
      votesStrip := fun _ => .error (.notInitialized .includeVariantCatalog) },
    { kind := .includeShaderName, votesInclude := fun _ => .ok true
      votesStrip := fun _ => .ok true },
    { kind := .includeVariantCatalog, votesInclude := fun _ => .ok true
      votesStrip := fun _ => .ok true },
    { kind := .stripPlatforms, votesStrip := fun _ => .ok true }]
  processAlwaysIncluded := false

theorem decision_of_votes_reef :
    reefEngine.bypasses reefContext.host reefContext.shader = false ∧
      IsLeast (positions (·.Strips reefContext) reefEngine.rules) 3 ∧
      ({ reefEngine with rules := reefEngine.rules.reverse }.decide reefContext).value.isKept =
        false := by
  obtain ⟨hstripped, -, hperm, -, -, -⟩ := decision_of_votes reefEngine reefContext (by decide)
  refine ⟨by decide, (hstripped 3).mp (by decide), ?_⟩
  rw [hperm _ (List.reverse_perm _)]
  decide

end VariantStrip
