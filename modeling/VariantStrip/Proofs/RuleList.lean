/-
Lists of rules stay compatible, whatever is done to them.

A list of rules is edited step by step (`RuleList.Edit`), and an edit may be refused.  What the
checks compare is one kind at a time with the kinds already present; what holds of the list is a
condition on all pairs (`RuleList.Compatible`).  They agree because compatibility of two kinds is
symmetric.

* `RuleList.canAdd_eq_ok_iff` — a kind may join if it is compatible with every present one,
* `RuleList.ofList_eq_ok_iff` — a list is accepted if its rules are compatible, two by two,
* `RuleList.Edit.compatible_apply` — an edit keeps a list compatible,
* `RuleList.compatible_edited` — so every list that can be reached is compatible.

The main result is `RuleList.edited_sound`.
-/
import VariantStrip.Proofs.Fallible
import VariantStrip.Rule.Compatibility
import Mathlib.Data.List.Perm.Basic
import Mathlib.Tactic.TFAE

namespace VariantStrip

namespace RuleKind

/-- Whether rules of two kinds may stand in one list. -/
def Compatible (k other : RuleKind) : Prop :=
  ¬(other = k ∧ k.traits.allowOnce = true) ∧
    other ∉ k.traits.exclusiveWith ∧ k ∉ other.traits.exclusiveWith

instance (k other : RuleKind) : Decidable (k.Compatible other) :=
  inferInstanceAs (Decidable (¬_ ∧ other ∉ _ ∧ k ∉ _))

theorem Compatible.symm {k other : RuleKind} (h : k.Compatible other) : other.Compatible k := by
  obtain ⟨honce, hk, hother⟩ := h
  refine ⟨?_, hother, hk⟩
  rintro ⟨rfl, hallow⟩
  exact honce ⟨rfl, hallow⟩

theorem excludes_eq_false_iff {k other : RuleKind} : k.excludes other = false ↔
    other ∉ k.traits.exclusiveWith ∧ k ∉ other.traits.exclusiveWith := by
  simp [excludes]

theorem conflict?_eq_none_iff {k present : RuleKind} :
    k.conflict? present = none ↔ k.Compatible present := by
  rw [Compatible, ← excludes_eq_false_iff, conflict?]
  by_cases honce : present = k ∧ k.traits.allowOnce = true
  · rw [if_pos honce]
    exact iff_of_false (Option.some_ne_none _) fun h => h.1 honce
  · rw [if_neg honce]
    cases k.excludes present <;> simp [honce]

theorem mem_menu (k : RuleKind) : k ∈ menu := by
  cases k <;> decide

theorem nodup_menu : menu.Nodup := by
  decide

/-- Some rule has the kind. -/
theorem exists_rule (k : RuleKind) : ∃ r : Rule, r.kind = k := by
  cases k
  case includeShaderName => exact ⟨{ spec := .includeShaderName [] }, rfl⟩
  case stripShaderName => exact ⟨{ spec := .stripShaderName [] }, rfl⟩
  case stripShaderPath => exact ⟨{ spec := .stripShaderPath [] }, rfl⟩
  case stripKeywords => exact ⟨{ spec := .stripKeywords {} }, rfl⟩
  case stripPlatforms => exact ⟨{ spec := .stripPlatforms [] }, rfl⟩
  case stripHardwareTier => exact ⟨{ spec := .stripHardwareTier [] }, rfl⟩
  case stripPasses => exact ⟨{ spec := .stripPasses [] }, rfl⟩
  case includeInternalShaders => exact ⟨{ spec := .includeInternalShaders }, rfl⟩
  case stripInternalShaders => exact ⟨{ spec := .stripInternalShaders }, rfl⟩
  case includeHiddenShaders => exact ⟨{ spec := .includeHiddenShaders }, rfl⟩
  case stripHiddenShaders => exact ⟨{ spec := .stripHiddenShaders }, rfl⟩
  case includeVariantCatalog => exact ⟨{ spec := .includeVariantCatalog {} }, rfl⟩

end RuleKind

namespace RuleList

/-- Any two rules of the list, at different places, may stand together. -/
def Compatible (l : RuleList) : Prop := l.rules.Pairwise fun r s => r.kind.Compatible s.kind

instance (l : RuleList) : Decidable l.Compatible := inferInstanceAs (Decidable (l.rules.Pairwise _))

theorem canAdd_eq_ok_iff {l : RuleList} {k : RuleKind} :
    l.canAdd k = .ok () ↔ ∀ r ∈ l.rules, r.kind.Compatible k := by
  have hnone : (l.rules.findSome? fun r => k.conflict? r.kind) = none ↔
      ∀ r ∈ l.rules, r.kind.Compatible k := by
    rw [List.findSome?_eq_none_iff]
    -- The new kind is compared with the present one, but the order of the two does not matter.
    refine forall₂_congr fun r _ => ?_
    rw [RuleKind.conflict?_eq_none_iff]
    exact ⟨.symm, .symm⟩
  rw [← hnone, canAdd]
  cases l.rules.findSome? fun r => k.conflict? r.kind <;> simp

/-- A rule either joins the list at its end or is refused. -/
theorem push_eq_ok_iff {l l' : RuleList} {r : Rule} :
    l.push r = .ok l' ↔ (∀ s ∈ l.rules, s.kind.Compatible r.kind) ∧ l' = ⟨l.rules ++ [r]⟩ := by
  rw [← canAdd_eq_ok_iff, push, bind_eq_ok_iff]
  constructor
  · rintro ⟨_, hadd, ⟨⟩⟩
    exact ⟨hadd, rfl⟩
  · rintro ⟨hadd, rfl⟩
    exact ⟨(), hadd, rfl⟩

theorem Compatible.push {l l' : RuleList} {r : Rule} (hl : l.Compatible)
    (h : l.push r = .ok l') : l'.Compatible := by
  obtain ⟨hr, rfl⟩ := push_eq_ok_iff.mp h
  rw [Compatible, List.pairwise_append]
  exact ⟨hl, List.pairwise_singleton _ r, fun s hs t ht => by
    rw [List.mem_singleton.mp ht]
    exact hr s hs⟩

/-- Rules are added to a compatible list if the longer list is compatible. -/
theorem foldlM_push_eq_ok_iff {rules : List Rule} {l l' : RuleList} (hl : l.Compatible) :
    rules.foldlM push l = .ok l' ↔ l' = ⟨l.rules ++ rules⟩ ∧ l'.Compatible := by
  induction rules generalizing l with
  | nil =>
    rw [List.foldlM_nil, List.append_nil]
    constructor
    · rintro ⟨⟩
      exact ⟨rfl, hl⟩
    · rintro ⟨rfl, -⟩
      rfl
  | cons r rules ih =>
    have hassoc : (⟨l.rules ++ r :: rules⟩ : RuleList) = ⟨(l.rules ++ [r]) ++ rules⟩ := by
      rw [List.append_assoc, List.singleton_append]
    rw [List.foldlM_cons, hassoc]
    constructor
    · intro h
      obtain ⟨l₁, hpush, hrest⟩ := bind_eq_ok_iff.mp h
      have hl₁ := hl.push hpush
      rw [ih hl₁, (push_eq_ok_iff.mp hpush).2] at hrest
      exact hrest
    · rintro ⟨rfl, hall⟩
      -- The rules up to the new one are part of a compatible list, so it is not refused.
      have hl₁ : Compatible ⟨l.rules ++ [r]⟩ := hall.sublist (List.sublist_append_left _ _)
      have hpush : l.push r = .ok ⟨l.rules ++ [r]⟩ :=
        push_eq_ok_iff.mpr ⟨fun s hs => (List.pairwise_append.mp hl₁).2.2 s hs r (by simp), rfl⟩
      rw [hpush]
      exact (ih hl₁).mpr ⟨rfl, hall⟩

theorem compatible_empty : ({} : RuleList).Compatible := List.Pairwise.nil

theorem ofList_eq_ok_iff {rules : List Rule} {l : RuleList} :
    ofList rules = .ok l ↔ l = ⟨rules⟩ ∧ l.Compatible :=
  foldlM_push_eq_ok_iff compatible_empty

/-- Compatibility does not depend on the order. -/
theorem Compatible.perm {l l' : RuleList} (hl : l.Compatible) (h : l'.rules.Perm l.rules) :
    l'.Compatible :=
  (h.pairwise_iff fun h => h.symm).mpr hl

theorem perm_move (l : RuleList) (source target : Nat) :
    (l.move source target).2.rules.Perm l.rules := by
  rw [move]
  cases hr : l.rules[source]? with
  | none => exact .refl _
  | some r =>
    obtain ⟨hlt, rfl⟩ := List.getElem?_eq_some_iff.mp hr
    by_cases ht : target < l.rules.length
    · have hlen : target ≤ (l.rules.eraseIdx source).length := by
        rw [List.length_eraseIdx_of_lt hlt]
        omega
      simp only [if_pos ht]
      exact (List.perm_insertIdx _ _ hlen).trans (List.getElem_cons_eraseIdx_perm hlt)
    · simp only [if_neg ht]
      exact .refl _

/-- Kinds decide about compatibility. -/
theorem Compatible.of_map_kind {l l' : RuleList} (hl : l.Compatible)
    (h : l'.rules.map Rule.kind = l.rules.map Rule.kind) : l'.Compatible := by
  have hl' : (l.rules.map Rule.kind).Pairwise RuleKind.Compatible := List.pairwise_map.mpr hl
  rw [← h] at hl'
  exact List.pairwise_map.mp hl'

theorem map_kind_set {rules : List Rule} {i : Nat} {r r' : Rule} (hr : rules[i]? = some r)
    (hkind : r'.kind = r.kind) : (rules.set i r').map Rule.kind = rules.map Rule.kind := by
  obtain ⟨hlt, rfl⟩ := List.getElem?_eq_some_iff.mp hr
  have hlt' : i < (rules.map Rule.kind).length := by
    rw [List.length_map]
    exact hlt
  rw [List.map_set, hkind, ← List.getElem_map Rule.kind (h := hlt'), List.set_getElem_self]

/-! ### Edits -/

/-- Something that is done to a list of rules.  A rule is revised through a handle to it, which
may change anything but its kind. -/
inductive Edit where
  | push (r : Rule)
  | remove (i : Nat)
  | move (source target : Nat)
  | renew (rules : List Rule)
  | revise (i : Nat) (change : Rule → Rule) (keepsKind : ∀ r, (change r).kind = r.kind)

/-- The list after an edit.  What is refused leaves the list as it is. -/
def Edit.apply (l : RuleList) : Edit → RuleList
  | push r => (l.push r).toOption.getD l
  | remove i => (l.remove i).2
  | move source target => (l.move source target).2
  | renew rules => (ofList rules).toOption.getD l
  | revise i change _ =>
    match l.rules[i]? with
    | some r => (l.replace i (change r)).2
    | none => l

theorem Edit.apply_push_of_error {l : RuleList} {r : Rule} {e : LoadError}
    (h : l.push r = .error e) : (push r).apply l = l := by
  rw [apply, h]
  rfl

theorem Edit.compatible_apply {l : RuleList} (hl : l.Compatible) (edit : Edit) :
    (edit.apply l).Compatible := by
  cases edit with
  | push r =>
    rw [apply]
    cases h : l.push r with
    | error e => exact hl
    | ok l' => exact hl.push h
  | remove i => exact hl.sublist (List.eraseIdx_sublist _ _)
  | move source target => exact hl.perm (l.perm_move source target)
  | renew rules =>
    rw [apply]
    cases h : ofList rules with
    | error e => exact hl
    | ok l' => exact (ofList_eq_ok_iff.mp h).2
  | revise i change keepsKind =>
    rw [apply]
    cases hr : l.rules[i]? with
    | none => exact hl
    | some r => exact hl.of_map_kind (map_kind_set hr (keepsKind r))

/-- The list after some edits. -/
def edited (edits : List Edit) : RuleList := edits.foldl Edit.apply {}

theorem compatible_edited (edits : List Edit) : (edited edits).Compatible :=
  List.foldlRecOn edits _ compatible_empty fun _ hl edit _ => edit.compatible_apply hl

/-! ### What may join -/

theorem mem_availableKinds_iff {l : RuleList} {k : RuleKind} :
    k ∈ l.availableKinds ↔ ∀ r ∈ l.rules, r.kind.Compatible k := by
  rw [← canAdd_eq_ok_iff, availableKinds, List.mem_filter, and_iff_right k.mem_menu]
  cases l.canAdd k <;> simp [Except.isOk, Except.toBool]

theorem availableKinds_tfae (l : RuleList) (k : RuleKind) :
    List.TFAE [k ∈ l.availableKinds, ∀ r : Rule, r.kind = k → l.push r = .ok ⟨l.rules ++ [r]⟩,
      ∃ r : Rule, r.kind = k ∧ ∃ l', l.push r = .ok l', ∀ r ∈ l.rules, r.kind.Compatible k] := by
  tfae_have 1 → 2 := by
    rintro h r rfl
    exact push_eq_ok_iff.mpr ⟨mem_availableKinds_iff.mp h, rfl⟩
  tfae_have 2 → 3 := by
    intro h
    obtain ⟨r, hr⟩ := k.exists_rule
    exact ⟨r, hr, _, h r hr⟩
  tfae_have 3 → 4 := by
    rintro ⟨r, rfl, l', h⟩
    exact (push_eq_ok_iff.mp h).1
  tfae_have 4 → 1 := mem_availableKinds_iff.mpr
  tfae_finish

/-- Whatever is done to an empty list of rules, accepted or refused, any two of its rules may stand
together.  A refused rule leaves the list as it was, and the menu offers, each once and in order,
the kinds of which every rule may join. -/
theorem edited_sound (edits : List Edit) :
    (edited edits).Compatible ∧
      (∀ r e, (edited edits).push r = .error e → edited (edits ++ [.push r]) = edited edits) ∧
      (edited edits).availableKinds.Sublist RuleKind.menu ∧
      (edited edits).availableKinds.Nodup ∧
      ∀ k, List.TFAE [k ∈ (edited edits).availableKinds,
        ∀ r : Rule, r.kind = k → (edited edits).push r = .ok ⟨(edited edits).rules ++ [r]⟩,
        ∃ r : Rule, r.kind = k ∧ ∃ l', (edited edits).push r = .ok l',
        ∀ r ∈ (edited edits).rules, r.kind.Compatible k] := by
  refine ⟨compatible_edited edits, fun r e he => ?_, List.filter_sublist,
    RuleKind.nodup_menu.sublist List.filter_sublist, availableKinds_tfae _⟩
  rw [edited, List.foldl_append]
  exact Edit.apply_push_of_error he

/-- Edits some of which are refused: a rule that is there already, and a list that holds both of
two kinds that exclude each other. -/
def busyEdits : List Edit :=
  [.push { spec := .includeHiddenShaders },
    .push { spec := .stripInternalShaders },
    .push { spec := .includeHiddenShaders, enabled := false },
    .push { spec := .stripShaderName [] },
    .renew [{ spec := .includeInternalShaders }, { spec := .stripInternalShaders }],
    .move 2 0, .move 1 3,
    .revise 1 (fun r => { r with enabled := false }) fun _ => rfl]

/-- What excludes a present rule is refused, even where the present rule is disabled. -/
theorem edited_sound_busyEdits :
    (edited busyEdits).rules.map (fun r => (r.kind, r.enabled)) =
        [(.stripShaderName, true), (.includeHiddenShaders, false), (.stripInternalShaders, true)] ∧
      (edited busyEdits).push { spec := .stripHiddenShaders } =
        .error (.exclusiveRule .stripHiddenShaders .includeHiddenShaders) ∧
      edited (busyEdits ++ [.push { spec := .stripHiddenShaders }]) = edited busyEdits ∧
      RuleKind.stripHiddenShaders ∉ (edited busyEdits).availableKinds ∧
      RuleKind.stripShaderName ∈ (edited busyEdits).availableKinds := by
  have hsound := edited_sound busyEdits
  have hrefused : (edited busyEdits).push { spec := .stripHiddenShaders } =
      .error (.exclusiveRule .stripHiddenShaders .includeHiddenShaders) := by
    decide +kernel
  exact ⟨by decide +kernel, hrefused, hsound.2.1 _ _ hrefused,
    fun h => absurd ((hsound.2.2.2.2 _).out 0 3 |>.mp h) (by decide +kernel),
    (hsound.2.2.2.2 _).out 3 0 |>.mp (by decide +kernel)⟩

end RuleList

end VariantStrip
