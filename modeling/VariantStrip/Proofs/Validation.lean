/-
Settings are accepted if their rules may stand together, two by two.

Rules are added to a list one after the other, and each one is compared with those in front of it.
What is accepted, and what is said where a list is refused, are both conditions on pairs of places
(`Settings.Clash`):

* `RuleKind.conflict?_eq_some_iff` — what is said against a kind beside a present one,
* `RuleList.ofList_eq_error_iff` — a list is refused at the first rule that does not fit to those in
  front of it, because of the first of these that it does not fit to,
* `Settings.validate_eq_error_iff` — the same in terms of places.

The main result is `Settings.validate_pairwise`.
-/
import Mathlib.Order.Bounds.Basic
import VariantStrip.Proofs.RuleList
import VariantStrip.Settings.Reading

namespace VariantStrip

namespace RuleKind

/-- What is said against a rule of a kind that may not stand beside a present one. -/
def objection (kind present : RuleKind) : LoadError :=
  if kind = present then .duplicateRule kind else .exclusiveRule kind present

theorem excludes_self (k : RuleKind) : k.excludes k = false := by
  cases k <;> decide

/-- The two checks are made in one scan, but no kind fails both: none excludes itself. -/
theorem conflict?_eq_some_iff {k present : RuleKind} {e : LoadError} :
    k.conflict? present = some e ↔ ¬ k.Compatible present ∧ e = k.objection present := by
  rw [← conflict?_eq_none_iff, conflict?, objection]
  by_cases hsame : k = present
  · subst hsame
    by_cases honce : k.traits.allowOnce = true
    · simp [honce, Eq.comm (a := e)]
    · simp [honce, excludes_self]
  · cases k.excludes present with
    | true => simp [hsame, Ne.symm hsame, Eq.comm (a := e)]
    | false => simp [Ne.symm hsame]

end RuleKind

namespace RuleList

theorem push_eq_error_iff {l : RuleList} {r : Rule} {e : LoadError} :
    l.push r = .error e ↔
      ∃ front early back, l.rules = front ++ early :: back ∧
        (∀ q ∈ front, q.kind.Compatible r.kind) ∧ ¬ early.kind.Compatible r.kind ∧
        e = r.kind.objection early.kind := by
  have hscan : l.push r = .error e ↔
      (l.rules.findSome? fun q => r.kind.conflict? q.kind) = some e := by
    rw [push, canAdd]
    cases l.rules.findSome? fun q => r.kind.conflict? q.kind with
    | none => exact iff_of_false (fun h => by cases h) (fun h => by cases h)
    | some e' => exact ⟨fun h => by cases h; rfl, fun h => by cases h; rfl⟩
  have hsymm (q : Rule) : r.kind.Compatible q.kind ↔ q.kind.Compatible r.kind := ⟨.symm, .symm⟩
  rw [hscan, List.findSome?_eq_some_iff]
  simp only [RuleKind.conflict?_eq_some_iff, RuleKind.conflict?_eq_none_iff, hsymm]
  constructor
  · rintro ⟨front, early, back, hrules, ⟨hearly, he⟩, hfront⟩
    exact ⟨front, early, back, hrules, hfront, hearly, he⟩
  · rintro ⟨front, early, back, hrules, hfront, hearly, he⟩
    exact ⟨front, early, back, hrules, ⟨hearly, he⟩, hfront⟩

/-- A list is refused at the first rule that does not fit to those in front of it, because of the
first of these that it does not fit to. -/
theorem ofList_eq_error_iff {rules : List Rule} {e : LoadError} :
    ofList rules = .error e ↔
      ∃ front early back late after, rules = (front ++ early :: back) ++ late :: after ∧
        (⟨front ++ early :: back⟩ : RuleList).Compatible ∧
        (∀ q ∈ front, q.kind.Compatible late.kind) ∧ ¬ early.kind.Compatible late.kind ∧
        e = late.kind.objection early.kind := by
  rw [ofList, foldlM_eq_error_iff]
  constructor
  · rintro ⟨before, late, after, l, rfl, hbefore, hlate⟩
    obtain ⟨rfl, hcompatible⟩ := ofList_eq_ok_iff.mp hbefore
    obtain ⟨front, early, back, hrules, hfront, hearly, he⟩ := push_eq_error_iff.mp hlate
    obtain rfl : before = front ++ early :: back := hrules
    exact ⟨front, early, back, late, after, rfl, hcompatible, hfront, hearly, he⟩
  · rintro ⟨front, early, back, late, after, rfl, hcompatible, hfront, hearly, he⟩
    exact ⟨_, late, after, _, rfl, ofList_eq_ok_iff.mpr ⟨rfl, hcompatible⟩,
      push_eq_error_iff.mpr ⟨front, early, back, rfl, hfront, hearly, he⟩⟩

end RuleList

namespace Settings

variable {s : Settings}

/-- The rules at two places may not stand in one list, whether they are enabled or not: they are of
one kind that is allowed once, or one kind excludes the other. -/
def Clash (s : Settings) (i j : Nat) : Prop :=
  ∃ r q, s.rules[i]? = some r ∧ s.rules[j]? = some q ∧ ¬ r.kind.Compatible q.kind

/-- The first clash: the second place is the smallest one that clashes with an earlier place, and
the first place is the smallest one that it clashes with. -/
structure FirstClash (s : Settings) (i j : Nat) : Prop where
  late : IsLeast {j | ∃ i < j, s.Clash i j} j
  early : IsLeast {i | i < j ∧ s.Clash i j} i

theorem Clash.symm {i j : Nat} (h : s.Clash i j) : s.Clash j i := by
  obtain ⟨r, q, hr, hq, hclash⟩ := h
  exact ⟨q, r, hq, hr, fun h => hclash h.symm⟩

theorem compatible_iff : (⟨s.rules⟩ : RuleList).Compatible ↔ ∀ i j, i ≠ j → ¬ s.Clash i j := by
  rw [RuleList.Compatible, List.pairwise_iff_getElem]
  constructor
  · -- Of two places one is the earlier one, and clashes are symmetric.
    have hordered (hpairs : ∀ i j (hi : i < s.rules.length) (hj : j < s.rules.length), i < j →
        s.rules[i].kind.Compatible s.rules[j].kind) (i j : Nat) (hij : i < j) :
        ¬ s.Clash i j := by
      rintro ⟨r, q, hr, hq, hclash⟩
      obtain ⟨hi, rfl⟩ := List.getElem?_eq_some_iff.mp hr
      obtain ⟨hj, rfl⟩ := List.getElem?_eq_some_iff.mp hq
      exact hclash (hpairs i j hi hj hij)
    intro hpairs i j hne
    rcases Nat.lt_or_gt_of_ne hne with hij | hji
    · exact hordered hpairs i j hij
    · exact fun h => hordered hpairs j i hji h.symm
  · intro hnone i j hi hj hij
    by_contra hclash
    exact hnone i j (Nat.ne_of_lt hij)
      ⟨_, _, List.getElem?_eq_getElem hi, List.getElem?_eq_getElem hj, hclash⟩

theorem validate_eq_ok_iff {t : Settings} :
    s.validate = .ok t ↔ t = s ∧ ∀ i j, i ≠ j → ¬ s.Clash i j := by
  rw [← compatible_iff, validate, bind_eq_ok_iff]
  constructor
  · rintro ⟨l, hl, ⟨⟩⟩
    obtain ⟨rfl, hcompatible⟩ := RuleList.ofList_eq_ok_iff.mp hl
    exact ⟨rfl, hcompatible⟩
  · rintro ⟨rfl, hcompatible⟩
    exact ⟨_, RuleList.ofList_eq_ok_iff.mpr ⟨rfl, hcompatible⟩, rfl⟩

/-- Where rules are refused one after the other there is a first clash. -/
theorem firstClash_of_split {front back after : List Rule} {early late : Rule}
    (hrules : s.rules = (front ++ early :: back) ++ late :: after)
    (hbefore : (⟨front ++ early :: back⟩ : RuleList).Compatible)
    (hfront : ∀ q ∈ front, q.kind.Compatible late.kind)
    (hclash : ¬ early.kind.Compatible late.kind) :
    s.FirstClash front.length (front ++ early :: back).length ∧
      s.rules[front.length]? = some early ∧
      s.rules[(front ++ early :: back).length]? = some late := by
  have hearly : s.rules[front.length]? = some early := by
    rw [hrules, List.append_assoc, List.getElem?_append_right (Nat.le_refl _), Nat.sub_self]
    rfl
  have hlate : s.rules[(front ++ early :: back).length]? = some late := by
    rw [hrules, List.getElem?_append_right (Nat.le_refl _), Nat.sub_self]
    rfl
  have hlt : front.length < (front ++ early :: back).length := by
    simp
  have hboth : s.Clash front.length (front ++ early :: back).length :=
    ⟨early, late, hearly, hlate, hclash⟩
  refine ⟨⟨⟨⟨front.length, hlt, hboth⟩, ?_⟩, ⟨hlt, hboth⟩, ?_⟩, hearly, hlate⟩
  · -- Two places in front of the late rule do not clash.
    rintro j ⟨i, hij, r, q, hr, hq, hclash'⟩
    by_contra hj
    have hj : j < (front ++ early :: back).length := Nat.lt_of_not_le hj
    rw [hrules, List.getElem?_append_left (Nat.lt_trans hij hj)] at hr
    rw [hrules, List.getElem?_append_left hj] at hq
    refine compatible_iff (s := { rules := front ++ early :: back }).mp hbefore i j
      (Nat.ne_of_lt hij) ?_
    exact ⟨r, q, hr, hq, hclash'⟩
  · -- A place in front of the early rule does not clash with the late one.
    rintro i ⟨-, r, q, hr, hq, hclash'⟩
    by_contra hi
    have hi : i < front.length := Nat.lt_of_not_le hi
    rw [hrules, List.append_assoc, List.getElem?_append_left hi] at hr
    rw [hlate] at hq
    cases hq
    exact hclash' (hfront r (List.mem_of_getElem? hr))

theorem FirstClash.eq {i j i' j' : Nat} (h : s.FirstClash i j) (h' : s.FirstClash i' j') :
    i = i' ∧ j = j' := by
  obtain rfl : j = j' := h.late.unique h'.late
  exact ⟨h.early.unique h'.early, rfl⟩

/-- Settings are refused because of their first clash. -/
theorem validate_eq_error_iff {e : LoadError} :
    s.validate = .error e ↔
      ∃ i j r q, s.FirstClash i j ∧ s.rules[i]? = some r ∧ s.rules[j]? = some q ∧
        e = q.kind.objection r.kind := by
  have hrefused {e : LoadError} (h : s.validate = .error e) :
      ∃ i j r q, s.FirstClash i j ∧ s.rules[i]? = some r ∧ s.rules[j]? = some q ∧
        e = q.kind.objection r.kind := by
    rw [validate, bind_eq_error_iff] at h
    rcases h with h | ⟨l, -, ⟨⟩⟩
    obtain ⟨front, early, back, late, after, hrules, hbefore, hfront, hclash, he⟩ :=
      RuleList.ofList_eq_error_iff.mp h
    obtain ⟨hfirst, hearly, hlate⟩ := firstClash_of_split hrules hbefore hfront hclash
    exact ⟨_, _, early, late, hfirst, hearly, hlate, he⟩
  refine ⟨hrefused, ?_⟩
  rintro ⟨i, j, r, q, hfirst, hr, hq, rfl⟩
  cases hvalidate : s.validate with
  | ok t =>
    obtain ⟨hij, hclash⟩ := hfirst.early.1
    exact absurd hclash ((validate_eq_ok_iff.mp hvalidate).2 i j (Nat.ne_of_lt hij))
  | error e =>
    obtain ⟨i', j', r', q', hfirst', hr', hq', rfl⟩ := hrefused hvalidate
    obtain ⟨rfl, rfl⟩ := hfirst.eq hfirst'
    rw [hr] at hr'
    rw [hq] at hq'
    cases hr'
    cases hq'
    rfl

/-- **Settings are accepted if no two of their rules clash.**  They come back as they are.

* Reordering the rules makes no difference, and fewer rules are accepted as well.
* Settings that are refused are refused because of their first clash: the late rule is a second one
  of the kind of the early rule, or else of a kind that does not go together with it. -/
theorem validate_pairwise (s : Settings) :
    (∀ t, s.validate = .ok t ↔ t = s ∧ ∀ i j, i ≠ j → ¬ s.Clash i j) ∧
      (∀ t : Settings, t.rules.Perm s.rules → (t.validate = .ok t ↔ s.validate = .ok s)) ∧
      (∀ t : Settings, t.rules.Sublist s.rules → s.validate = .ok s → t.validate = .ok t) ∧
      (∀ e, s.validate = .error e ↔
        ∃ i j r q, s.FirstClash i j ∧ s.rules[i]? = some r ∧ s.rules[j]? = some q ∧
          e = if q.kind = r.kind then .duplicateRule q.kind
            else .exclusiveRule q.kind r.kind) := by
  have haccepted (t : Settings) : t.validate = .ok t ↔ (⟨t.rules⟩ : RuleList).Compatible := by
    rw [validate_eq_ok_iff, compatible_iff, and_iff_right rfl]
  refine ⟨fun t => validate_eq_ok_iff, fun t hperm => ?_, fun t hsub hs => ?_, fun e => ?_⟩
  · rw [haccepted, haccepted]
    exact ⟨fun h => h.perm hperm.symm, fun h => h.perm hperm⟩
  · rw [haccepted] at hs ⊢
    exact hs.sublist hsub
  · exact validate_eq_error_iff

/-- Rules that may stand together; one of them is disabled. -/
def cliffRules : List Rule := [
  { spec := .stripShaderName [] },
  { spec := .includeHiddenShaders, enabled := false },
  { spec := .stripShaderName [] },
  { spec := .stripInternalShaders }]

/-- With more rules there are two clashes, and the second one is a repetition. -/
def cliffSettings : Settings where
  rules := cliffRules ++ [{ spec := .stripHiddenShaders }, { spec := .stripInternalShaders }]

/-- A rule that is disabled takes part in a clash as well. -/
theorem validate_pairwise_cliff :
    ({ rules := cliffRules } : Settings).validate = .ok { rules := cliffRules } ∧
      ({ rules := cliffRules.reverse } : Settings).validate = .ok { rules := cliffRules.reverse } ∧
      ({ rules := cliffRules.tail } : Settings).validate = .ok { rules := cliffRules.tail } ∧
      cliffSettings.FirstClash 1 4 ∧
      cliffSettings.validate =
        .error (.exclusiveRule .stripHiddenShaders .includeHiddenShaders) := by
  obtain ⟨-, hperm, hsub, -⟩ := validate_pairwise { rules := cliffRules }
  obtain ⟨-, -, -, herror⟩ := validate_pairwise cliffSettings
  have hok : ({ rules := cliffRules } : Settings).validate = .ok { rules := cliffRules } :=
    validate_eq_ok_iff.mpr ⟨rfl, compatible_iff.mp (by decide)⟩
  have hsplit : cliffSettings.rules =
      cliffRules.take 1 ++
        { spec := .includeHiddenShaders, enabled := false } :: cliffRules.drop 2 ++
        { spec := .stripHiddenShaders } :: [{ spec := .stripInternalShaders }] := rfl
  obtain ⟨hfirst, hearly, hlate⟩ :=
    firstClash_of_split hsplit (by decide) (by decide) (by decide)
  exact ⟨hok, (hperm { rules := cliffRules.reverse } cliffRules.reverse_perm).mpr hok,
    hsub { rules := cliffRules.tail } cliffRules.tail_sublist hok, hfirst,
    (herror _).mpr ⟨1, 4, _, _, hfirst, hearly, hlate, rfl⟩⟩

end Settings

end VariantStrip
