/-
Ignoring case keeps matches.

There are two ways to ignore case.  Plain filters fold the pattern and the text character by
character and compare what comes out; wildcards compare characters by their case orbits.  Neither of
them tells apart what is the same:

* `Comparison.Relates.map` — texts that compare as asked still do when both are mapped,
* `Wildcard.ReadsOff.ignoringCase` — what is read off a wildcard is read off it when case is
  ignored.

With or without case the plain filters are ordered by what they ask for
(`Comparison.Relates.startsWith` and its kin).  The main result is `ignoring_case_keeps_matches`.
-/
import VariantStrip.Proofs.Fallible
import VariantStrip.Proofs.Wildcard

namespace VariantStrip

/-! ### Plain filters -/

namespace Comparison.Relates

variable {α : Type} {pattern text : List α}

theorem map {β : Type} (f : α → β) {how : Comparison} (h : how.Relates pattern text) :
    how.Relates (pattern.map f) (text.map f) := by
  cases how with
  | equals => exact congrArg (List.map f) h
  | contains => exact List.IsInfix.map f h
  | startsWith => exact List.IsPrefix.map f h
  | endsWith => exact List.IsSuffix.map f h

theorem startsWith (h : Comparison.equals.Relates pattern text) :
    Comparison.startsWith.Relates pattern text := by
  rw [show text = pattern from h]
  exact List.prefix_rfl

theorem endsWith (h : Comparison.equals.Relates pattern text) :
    Comparison.endsWith.Relates pattern text := by
  rw [show text = pattern from h]
  exact List.suffix_rfl

theorem contains (h : Comparison.startsWith.Relates pattern text ∨
    Comparison.endsWith.Relates pattern text) : Comparison.contains.Relates pattern text := by
  rcases h with hprefix | hsuffix
  · exact List.IsPrefix.isInfix hprefix
  · exact List.IsSuffix.isInfix hsuffix

end Comparison.Relates

/-- What a plain filter accepts, when both texts have been folded. -/
theorem StringFilter.accepts_plain_iff [Pattern.Capacity] (how : Comparison) (pattern text : String)
    (ignoreCase : Bool) :
    StringFilter.accepts { matchType := how.matchType, pattern, ignoreCase } (some text) =
        .ok true ↔
      how.Relates (foldCase ignoreCase pattern.toList) (foldCase ignoreCase text.toList) := by
  rw [accepts_plain, ← Comparison.holds_iff]
  exact ⟨Except.ok.inj, congrArg Except.ok⟩

/-! ### Wildcards -/

namespace Wildcard

theorem Alike.ignoringCase {a c : Char} (h : Alike false a c) : Alike true a c := by
  rw [show a = c from h]
  exact Unicode.mem_caseOrbit_self c

theorem StandsFor.ignoringCase {a : Char} {part : List Char} (h : StandsFor false a part) :
    StandsFor true a part := by
  unfold StandsFor at h ⊢
  by_cases hstar : a = '*'
  · rwa [if_pos hstar] at h ⊢
  by_cases hquestion : a = '?'
  · rwa [if_neg hstar, if_pos hquestion] at h ⊢
  · rw [if_neg hstar, if_neg hquestion] at h ⊢
    obtain ⟨c, halike, rfl⟩ := h
    exact ⟨c, halike.ignoringCase, rfl⟩

theorem ReadsOff.ignoringCase {wildcard text : List Char} (h : ReadsOff false wildcard text) :
    ReadsOff true wildcard text := by
  obtain ⟨parts, hparts, rfl⟩ := h
  exact ⟨parts, hparts.imp fun _ _ hpart => hpart.ignoringCase, rfl⟩

/-- **A wildcard that ignores case** accepts what it accepts otherwise. -/
theorem accepts_ignoringCase [Pattern.Capacity] {wildcard text : String} {m m' : Matcher}
    (hm : Matcher.ofFilter { matchType := .wildcard, pattern := wildcard } = .ok m)
    (hm' : Matcher.ofFilter { matchType := .wildcard, pattern := wildcard, ignoreCase := true } =
      .ok m') (h : m.accepts text = true) : m'.accepts text = true := by
  rw [accepts_iff_readsOff hm] at h
  rw [accepts_iff_readsOff hm']
  exact h.ignoringCase

end Wildcard

/-! ### Both kinds of filters -/

/-- A filter accepts a text if it can be made ready and then accepts it. -/
theorem StringFilter.accepts_eq_ok_true_iff [Pattern.Capacity] {f : StringFilter} {text : String} :
    f.accepts (some text) = .ok true ↔
      ∃ m, Matcher.ofFilter f = .ok m ∧ m.accepts text = true := map_eq_ok_iff

/-- All filters but regular expressions are wildcards or plain ones. -/
theorem MatchType.eq_of_ne_regex {t : MatchType} (h : t ≠ .regex) :
    t = .wildcard ∨ ∃ how : Comparison, t = how.matchType := by
  cases t with
  | equals => exact .inr ⟨.equals, rfl⟩
  | contains => exact .inr ⟨.contains, rfl⟩
  | startsWith => exact .inr ⟨.startsWith, rfl⟩
  | endsWith => exact .inr ⟨.endsWith, rfl⟩
  | wildcard => exact .inl rfl
  | regex => exact absurd rfl h

/-- **Ignoring case never loses a match.**  What a filter accepts that is no regular expression, it
accepts when it ignores case as well, if it can be made ready for this, as all but wildcards can.
With and without case, a text that equals a pattern starts and ends with it, and a text that starts
or ends with a pattern contains it. -/
theorem ignoring_case_keeps_matches [Pattern.Capacity] (pattern : String)
    (input : Option String) :
    (∀ matchType, matchType ≠ .regex →
      (matchType = .wildcard →
        ∃ m, Matcher.ofFilter { matchType, pattern, ignoreCase := true } = .ok m) →
      StringFilter.accepts { matchType, pattern } input = .ok true →
        StringFilter.accepts { matchType, pattern, ignoreCase := true } input = .ok true) ∧
    ∀ ignoreCase : Bool,
      let accepts (matchType : MatchType) : Prop :=
        StringFilter.accepts { matchType, pattern, ignoreCase } input = .ok true
      (accepts .equals → accepts .startsWith ∧ accepts .endsWith) ∧
        (accepts .startsWith ∨ accepts .endsWith → accepts .contains) := by
  cases input with
  | none =>
    -- A text that is missing is never accepted.
    have hnone (f : StringFilter) : f.accepts none ≠ .ok true := nofun
    simp only [hnone, false_imp_iff, or_self, implies_true, and_self]
  | some text =>
    constructor
    · intro matchType hregex hready haccepts
      rcases MatchType.eq_of_ne_regex hregex with rfl | ⟨how, rfl⟩
      · rw [StringFilter.accepts_eq_ok_true_iff] at haccepts ⊢
        obtain ⟨m, hm, hmatch⟩ := haccepts
        obtain ⟨m', hm'⟩ := hready rfl
        exact ⟨m', hm', Wildcard.accepts_ignoringCase hm hm' hmatch⟩
      · rw [StringFilter.accepts_plain_iff] at haccepts ⊢
        exact haccepts.map Unicode.simpleUpper
    · intro ignoreCase accepts
      have hplain (how : Comparison) : accepts how.matchType ↔
          how.Relates (foldCase ignoreCase pattern.toList) (foldCase ignoreCase text.toList) :=
        StringFilter.accepts_plain_iff how pattern text ignoreCase
      constructor
      · intro h
        have hequal := (hplain .equals).mp h
        exact ⟨(hplain .startsWith).mpr hequal.startsWith, (hplain .endsWith).mpr hequal.endsWith⟩
      · intro h
        refine (hplain .contains).mpr (.contains ?_)
        exact h.imp (hplain .startsWith).mp (hplain .endsWith).mp

/-- The question mark stands for an `ß`, whose uppercase form is longer, and the newline and the `ſ`
for themselves. -/
theorem ignoring_case_keeps_matches_street :
    MatchType.wildcard ≠ .regex ∧
      (∃ m, Matcher.ofFilter
        { matchType := .wildcard, pattern := "Stra?e\n*ſ", ignoreCase := true } = .ok m) ∧
      StringFilter.accepts { matchType := .wildcard, pattern := "Stra?e\n*ſ" }
        (some "Straße\nOstſ") = .ok true ∧
      StringFilter.accepts { matchType := .wildcard, pattern := "Stra?e\n*ſ", ignoreCase := true }
        (some "Straße\nOstſ") = .ok true := by
  have hregex : MatchType.wildcard ≠ .regex := by decide
  have hready : ∃ m, Matcher.ofFilter
      { matchType := .wildcard, pattern := "Stra?e\n*ſ", ignoreCase := true } = .ok m :=
    ⟨_, Wildcard.ofFilter_wildcard_eq_ok_iff.mpr ⟨by decide +kernel, rfl⟩⟩
  have haccepts : StringFilter.accepts { matchType := .wildcard, pattern := "Stra?e\n*ſ" }
      (some "Straße\nOstſ") = .ok true := by
    decide +kernel
  have hkeeps := (ignoring_case_keeps_matches "Stra?e\n*ſ" (some "Straße\nOstſ")).1
  exact ⟨hregex, hready, haccepts, hkeeps _ hregex (fun _ => hready) haccepts⟩

end VariantStrip
