/-
Moving a rule in a list, and moving it back.

A rule that is moved is taken out of the list and put back at another place.  The rules between the
two places make room by one step, downwards or upwards (`RuleList.placeAfter`):

* `RuleList.getElem?_move` — where each rule stands afterwards,
* `RuleList.strictMonoOn_placeAfter` — the other rules keep their order,
* `RuleList.eraseIdx_move` — without the moved rule nothing has changed,
* `RuleList.move_move` — moving the rule back restores the list.

A rule that has been removed may always join the list again (`RuleList.Compatible.push_removed`),
since compatibility does not depend on the order, and from the end of the list it can be moved back
to its place (`RuleList.move_pushed`).  The main result is `RuleList.moves_are_undone`.
-/
import Mathlib.Data.List.InsertIdx
import Mathlib.Order.Monotone.Basic
import VariantStrip.Proofs.RuleList

namespace VariantStrip.RuleList

variable {l : RuleList} {source target i : Nat} {r : Rule}

theorem move_eq (hr : l.rules[source]? = some r) (htarget : target < l.rules.length) :
    l.move source target = (true, ⟨(l.rules.eraseIdx source).insertIdx target r⟩) := by
  simp only [move, hr, if_pos htarget]

theorem move_of_not_lt (h : ¬(source < l.rules.length ∧ target < l.rules.length)) :
    l.move source target = (false, l) := by
  rw [move]
  cases hr : l.rules[source]? with
  | none => rfl
  | some r =>
    obtain ⟨hsource, -⟩ := List.getElem?_eq_some_iff.mp hr
    have htarget : ¬ target < l.rules.length := fun htarget => h ⟨hsource, htarget⟩
    simp only [if_neg htarget]

theorem length_move (l : RuleList) (source target : Nat) :
    (l.move source target).2.rules.length = l.rules.length :=
  (l.perm_move source target).length_eq

/-! ### Where rules stand afterwards -/

/-- The place of a rule after the rule at one place has been moved to another. -/
def placeAfter (source target i : Nat) : Nat :=
  if i = source then target
  else if source < i ∧ i ≤ target then i - 1
  else if target ≤ i ∧ i < source then i + 1
  else i

/-- **The other rules keep their order.** -/
theorem strictMonoOn_placeAfter (source target : Nat) :
    StrictMonoOn (placeAfter source target) {i | i ≠ source} := by
  intro i hi j hj hij
  have hi' : i ≠ source := hi
  have hj' : j ≠ source := hj
  grind [placeAfter]

/-- **Where each rule stands.** -/
theorem getElem?_move (hsource : source < l.rules.length) (htarget : target < l.rules.length)
    (i : Nat) : (l.move source target).2.rules[placeAfter source target i]? = l.rules[i]? := by
  have hlength : (l.rules.eraseIdx source).length = l.rules.length - 1 :=
    List.length_eraseIdx_of_lt hsource
  rw [move_eq (List.getElem?_eq_getElem hsource) htarget, List.getElem?_insertIdx]
  by_cases hi : i = source
  · -- The rule itself has been put back at the target.
    have hle : target ≤ (l.rules.eraseIdx source).length := by omega
    rw [hi, placeAfter, if_pos rfl, if_neg (Nat.lt_irrefl _), if_pos rfl, if_pos hle,
      List.getElem?_eq_getElem hsource]
  · -- Another one has closed the gap, or made room, or stayed.
    rw [List.getElem?_eraseIdx, List.getElem?_eraseIdx]
    grind [placeAfter]

/-- Without the moved rule nothing has changed. -/
theorem eraseIdx_move (hsource : source < l.rules.length) (htarget : target < l.rules.length) :
    (l.move source target).2.rules.eraseIdx target = l.rules.eraseIdx source := by
  rw [move_eq (List.getElem?_eq_getElem hsource) htarget, List.eraseIdx_insertIdx_self]

theorem getElem?_move_target (hsource : source < l.rules.length)
    (htarget : target < l.rules.length) :
    (l.move source target).2.rules[target]? = l.rules[source]? := by
  have hmoved := getElem?_move hsource htarget source
  rwa [placeAfter, if_pos rfl] at hmoved

/-- **Moving the rule back** restores the list. -/
theorem move_move (hsource : source < l.rules.length) (htarget : target < l.rules.length) :
    (l.move source target).2.move target source = (true, l) := by
  have hback : (l.move source target).2.rules[target]? = some l.rules[source] := by
    rw [getElem?_move_target hsource htarget, List.getElem?_eq_getElem hsource]
  -- The list is as long as before, so there is a place to move back to.
  have hroom : source < (l.move source target).2.rules.length := by rwa [length_move]
  rw [move_eq hback hroom, eraseIdx_move hsource htarget, List.insertIdx_eraseIdx_getElem hsource]

/-! ### Removing and putting back -/

/-- A rule that is appended to the others is moved back from the end of the list. -/
theorem move_pushed (hi : i < l.rules.length) :
    move ⟨l.rules.eraseIdx i ++ [l.rules[i]]⟩ (l.rules.eraseIdx i).length i = (true, l) := by
  have hlast : (l.rules.eraseIdx i ++ [l.rules[i]])[(l.rules.eraseIdx i).length]? =
      some l.rules[i] := List.getElem?_concat_length
  have hroom : i < (l.rules.eraseIdx i ++ [l.rules[i]]).length := by
    rw [List.length_append, List.length_eraseIdx_of_lt hi, List.length_singleton]
    omega
  have hothers : (l.rules.eraseIdx i ++ [l.rules[i]]).eraseIdx (l.rules.eraseIdx i).length =
      l.rules.eraseIdx i := by
    rw [List.eraseIdx_append_of_length_le (Nat.le_refl _), Nat.sub_self, List.eraseIdx_zero,
      List.tail_cons, List.append_nil]
  rw [move_eq hlast hroom, hothers, List.insertIdx_eraseIdx_getElem hi]

/-- **A rule that has been removed** may join the list again. -/
theorem Compatible.push_removed (hl : l.Compatible) (hi : i < l.rules.length) :
    (l.remove i).2.push l.rules[i] = .ok ⟨l.rules.eraseIdx i ++ [l.rules[i]]⟩ := by
  -- The order does not matter, so the rule may stand in front of the others.
  have hperm : (l.rules[i] :: l.rules.eraseIdx i).Perm l.rules := List.getElem_cons_eraseIdx_perm hi
  have hfirst : Compatible ⟨l.rules[i] :: l.rules.eraseIdx i⟩ := hl.perm hperm
  refine push_eq_ok_iff.mpr ⟨fun s hs => ?_, rfl⟩
  exact ((List.pairwise_cons.mp hfirst).1 s hs).symm

/-- What is removed from a list. -/
theorem remove_eq (hi : i < l.rules.length) :
    l.remove i = (some l.rules[i], ⟨l.rules.eraseIdx i⟩) := by
  rw [remove, List.getElem?_eq_getElem hi]

theorem remove_of_not_lt (hi : ¬ i < l.rules.length) : l.remove i = (none, l) := by
  rw [remove, List.getElem?_eq_none (Nat.le_of_not_lt hi),
    List.eraseIdx_of_length_le (Nat.le_of_not_lt hi)]

/-- **Moves are undone.**  Take any list that edits lead to, and two places.

* If there are rules at both places, the rule at the first one is moved to the second one.  The
  other rules keep their order, and stand where `placeAfter` says; no rule is lost, repeated or
  changed; and moving the rule back restores the list.
* Otherwise the move is refused, and nothing changes.
* A rule that is removed is accepted when it is pushed again, and moving it from the end of the list
  to its old place restores the list.  Where there is no rule, nothing is removed. -/
theorem moves_are_undone (edits : List Edit) (source target : Nat) :
    let l := edited edits
    (source < l.rules.length ∧ target < l.rules.length →
      ∃ l', l.move source target = (true, l') ∧
        l'.rules[target]? = l.rules[source]? ∧
        l'.rules.eraseIdx target = l.rules.eraseIdx source ∧
        (∀ i, l'.rules[placeAfter source target i]? = l.rules[i]?) ∧
        StrictMonoOn (placeAfter source target) {i | i ≠ source} ∧
        l'.rules.Perm l.rules ∧
        l'.move target source = (true, l)) ∧
      (¬(source < l.rules.length ∧ target < l.rules.length) →
        l.move source target = (false, l)) ∧
      (∀ i, i < l.rules.length →
        ∃ r rest l', l.remove i = (some r, rest) ∧ l.rules[i]? = some r ∧
          rest.push r = .ok l' ∧ l'.move rest.rules.length i = (true, l)) ∧
      ∀ i, ¬ i < l.rules.length → l.remove i = (none, l) := by
  intro l
  refine ⟨fun ⟨hsource, htarget⟩ => ?_, move_of_not_lt, fun i hi => ?_, fun i => remove_of_not_lt⟩
  · have hmoved : (l.move source target).1 = true := by
      rw [move_eq (List.getElem?_eq_getElem hsource) htarget]
    exact ⟨(l.move source target).2, Prod.ext hmoved rfl, getElem?_move_target hsource htarget,
      eraseIdx_move hsource htarget, getElem?_move hsource htarget,
      strictMonoOn_placeAfter source target, l.perm_move source target, move_move hsource htarget⟩
  · exact ⟨l.rules[i], ⟨l.rules.eraseIdx i⟩, _, remove_eq hi, List.getElem?_eq_getElem hi,
      (compatible_edited edits).push_removed hi, move_pushed hi⟩

/-- Four rules, two of which may stand in a list once only. -/
def moorEdits : List Edit :=
  [.renew [{ spec := .stripHiddenShaders }, { spec := .stripPlatforms [.ps4] },
      { spec := .includeInternalShaders }],
    .push { spec := .stripPlatforms [.ps4] },
    .push { spec := .includeHiddenShaders }]

/-- The third rule becomes the first one; and a rule of which there is at most one returns to its
place. -/
theorem moves_are_undone_moor :
    (∃ l', (edited moorEdits).move 2 0 = (true, l') ∧
        l'.rules.map Rule.kind =
          [.includeInternalShaders, .stripHiddenShaders, .stripPlatforms, .stripPlatforms] ∧
        l'.move 0 2 = (true, edited moorEdits)) ∧
      (edited moorEdits).move 1 4 = (false, edited moorEdits) ∧
      ∃ r rest l', (edited moorEdits).remove 0 = (some r, rest) ∧ r.kind = .stripHiddenShaders ∧
        rest.push r = .ok l' ∧ l'.move 3 0 = (true, edited moorEdits) := by
  obtain ⟨hmove, -, hremove, -⟩ := moves_are_undone moorEdits 2 0
  obtain ⟨-, hrefused, -, -⟩ := moves_are_undone moorEdits 1 4
  obtain ⟨l', hl', -, -, -, -, -, hback⟩ := hmove (by decide +kernel)
  obtain ⟨r, rest, l'', hrest, hr, hpush, hreturn⟩ := hremove 0 (by decide +kernel)
  have hkinds : ((edited moorEdits).move 2 0).2.rules.map Rule.kind =
      [.includeInternalShaders, .stripHiddenShaders, .stripPlatforms, .stripPlatforms] := by
    decide +kernel
  have hkind : (edited moorEdits).rules[0]?.map Rule.kind = some .stripHiddenShaders := by
    decide +kernel
  have hlast : ((edited moorEdits).remove 0).2.rules.length = 3 := by decide +kernel
  rw [hl'] at hkinds
  rw [hr] at hkind
  rw [hrest] at hlast
  rw [hlast] at hreturn
  exact ⟨⟨l', hl', hkinds, hback⟩, hrefused (by decide +kernel), r, rest, l'', hrest,
    Option.some.inj hkind, hpush, hreturn⟩

end VariantStrip.RuleList
