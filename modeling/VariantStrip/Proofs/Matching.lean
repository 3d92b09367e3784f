/-
Matches are found where they are.

`Expr.Spans` is the meaning of an expression and `Expr.ends` the way in which its matches are found:
all at once, from a list of positions to a list of positions.  A list of positions stands for the
set of its members, and a step between lists for a relation between positions (`Moves`):

* `mem_stepsExactly` and `mem_stepsUpTo` — repeating a step repeats its relation, although it stops
  as soon as nothing changes,
* `exists_steps_le` — spans only lead upwards, so a repetition without an upper bound needs no more
  steps than there are positions,
* `Expr.moves_ends` — positions are taken to just those that spans lead to, by induction on the
  expression.

The main result is `Expr.matchesIn_iff`: an expression matches in a text if it stands for some
stretch of it.
-/
import Mathlib.Logic.Basic
import VariantStrip.Pattern.Match

namespace VariantStrip.Pattern

/-! ### Lists of positions as sets -/

theorem mem_mergeAscending {j : Nat} (fuel : Nat) (xs ys : List Nat) :
    j ∈ mergeAscending fuel xs ys ↔ j ∈ xs ∨ j ∈ ys := by
  induction fuel generalizing xs ys with
  | zero => simp [mergeAscending]
  | succ fuel ih =>
    cases xs with
    | nil => simp [mergeAscending]
    | cons x xs =>
      cases ys with
      | nil => simp [mergeAscending]
      | cons y ys =>
        rw [mergeAscending]
        by_cases hlt : x < y
        · rw [if_pos hlt, List.mem_cons, ih, List.mem_cons (l := xs), or_assoc]
        · rw [if_neg hlt]
          by_cases hgt : y < x
          · rw [if_pos hgt, List.mem_cons, ih, List.mem_cons (l := ys)]
            exact or_left_comm
          · have heq : x = y := by omega
            rw [if_neg hgt, List.mem_cons, ih, List.mem_cons, List.mem_cons, heq]
            exact or_or_distrib_left

theorem mem_unionPositions {j : Nat} {xs ys : List Nat} :
    j ∈ unionPositions xs ys ↔ j ∈ xs ∨ j ∈ ys := mem_mergeAscending _ xs ys

/-! ### Steps -/

/-- A step takes positions to just those that a relation leads to from them. -/
def Moves (R : Nat → Nat → Prop) (step : List Nat → List Nat) : Prop :=
  ∀ ps j, j ∈ step ps ↔ ∃ i ∈ ps, R i j

section

variable {R : Nat → Nat → Prop} {step : List Nat → List Nat}

theorem Moves.steps_succ (hstep : Moves R step) (n : Nat) (ps : List Nat) (j : Nat) :
    (∃ i ∈ ps, Steps R (n + 1) i j) ↔ ∃ i ∈ step ps, Steps R n i j := by
  constructor
  · rintro ⟨i, hi, k, hik, hkj⟩
    exact ⟨k, (hstep ps k).mpr ⟨i, hi, hik⟩, hkj⟩
  · rintro ⟨k, hk, hkj⟩
    obtain ⟨i, hi, hik⟩ := (hstep ps k).mp hk
    exact ⟨i, hi, k, hik, hkj⟩

theorem Moves.step_nil (hstep : Moves R step) : step [] = [] := by
  refine List.eq_nil_iff_forall_not_mem.mpr fun k hk => ?_
  obtain ⟨i, hi, -⟩ := (hstep [] k).mp hk
  exact List.not_mem_nil hi

theorem stepsExactly_of_fixed {ps : List Nat} (hfixed : step ps = ps) (n : Nat) :
    stepsExactly step n ps = ps := by
  cases n with
  | zero => rfl
  | succ n =>
    rw [stepsExactly]
    by_cases hempty : ps.isEmpty = true
    · rw [if_pos hempty, List.isEmpty_iff.mp hempty]
    · simp only [if_neg hempty, if_pos hfixed]

theorem mem_stepsExactly (hstep : Moves R step) (n : Nat) (ps : List Nat) (j : Nat) :
    j ∈ stepsExactly step n ps ↔ ∃ i ∈ ps, Steps R n i j := by
  induction n generalizing ps with
  | zero => simp [stepsExactly, Steps]
  | succ n ih =>
    rw [hstep.steps_succ, ← ih, stepsExactly]
    by_cases hempty : ps = []
    · rw [if_pos (List.isEmpty_iff.mpr hempty), hempty, hstep.step_nil,
        stepsExactly_of_fixed hstep.step_nil]
    · rw [if_neg (mt List.isEmpty_iff.mp hempty)]
      by_cases hfixed : step ps = ps
      · simp only [hfixed, if_true, stepsExactly_of_fixed hfixed]
      · simp only [if_neg hfixed]

/-- Several steps stay within what a single step does not leave. -/
theorem mem_of_steps {ps : List Nat} (hclosed : ∀ i ∈ ps, ∀ j, R i j → j ∈ ps) {n i j : Nat}
    (hi : i ∈ ps) (h : Steps R n i j) : j ∈ ps := by
  induction n generalizing i with
  | zero => exact h ▸ hi
  | succ n ih =>
    obtain ⟨k, hik, hkj⟩ := h
    exact ih (hclosed i hi k hik) hkj

theorem mem_stepsUpTo (hstep : Moves R step) (n : Nat) (ps : List Nat) (j : Nat) :
    j ∈ stepsUpTo step n ps ↔ ∃ k ≤ n, ∃ i ∈ ps, Steps R k i j := by
  induction n generalizing ps with
  | zero => simp [stepsUpTo, Steps]
  | succ n ih =>
    rw [stepsUpTo]
    by_cases hfixed : unionPositions ps (step ps) = ps
    · -- A step adds nothing, so what any number of steps reaches is there already.
      simp only [if_pos hfixed]
      have hclosed : ∀ i ∈ ps, ∀ j, R i j → j ∈ ps := by
        intro i hi j hij
        rw [← hfixed]
        exact mem_unionPositions.mpr (.inr ((hstep ps j).mpr ⟨i, hi, hij⟩))
      constructor
      · intro hj
        exact ⟨0, Nat.zero_le _, j, hj, rfl⟩
      · rintro ⟨k, -, i, hi, hij⟩
        exact mem_of_steps hclosed hi hij
    · simp only [if_neg hfixed]
      rw [ih]
      constructor
      · rintro ⟨k, hk, i, hi, hij⟩
        rcases mem_unionPositions.mp hi with hi | hi
        · exact ⟨k, by omega, i, hi, hij⟩
        · exact ⟨k + 1, by omega, (hstep.steps_succ k ps j).mpr ⟨i, hi, hij⟩⟩
      · rintro ⟨k, hk, i, hi, hij⟩
        cases k with
        | zero => exact ⟨0, Nat.zero_le _, i, mem_unionPositions.mpr (.inl hi), hij⟩
        | succ k =>
          obtain ⟨i', hi', hij'⟩ := (hstep.steps_succ k ps j).mp ⟨i, hi, hij⟩
          exact ⟨k, by omega, i', mem_unionPositions.mpr (.inr hi'), hij'⟩

theorem steps_add {m n i j : Nat} :
    Steps R (m + n) i j ↔ ∃ k, Steps R m i k ∧ Steps R n k j := by
  induction m generalizing i with
  | zero => simp [Steps]
  | succ m ih =>
    rw [Nat.succ_add]
    constructor
    · rintro ⟨k, hik, hkj⟩
      obtain ⟨l, hkl, hlj⟩ := ih.mp hkj
      exact ⟨l, ⟨k, hik, hkl⟩, hlj⟩
    · rintro ⟨l, ⟨k, hik, hkl⟩, hlj⟩
      exact ⟨k, hik, ih.mpr ⟨l, hkl, hlj⟩⟩

/-! ### Steps upwards -/

/-- A relation that stays where it is or leads upwards, to a position not above `size`. -/
def Upwards (size : Nat) (R : Nat → Nat → Prop) : Prop :=
  ∀ i j, R i j → i = j ∨ i < j ∧ j ≤ size

variable {size : Nat}

theorem Upwards.steps (hR : Upwards size R) (n : Nat) : Upwards size (Steps R n) := by
  induction n with
  | zero => exact fun i j hij => .inl hij
  | succ n ih =>
    rintro i j ⟨k, hik, hkj⟩
    have hfirst := hR i k hik
    have hrest := ih k j hkj
    omega

/-- Steps that stay where they are can be left out. -/
theorem exists_steps_le (hR : Upwards size R) {n i j : Nat} (h : Steps R n i j) :
    ∃ m ≤ j - i, Steps R m i j := by
  induction n generalizing i with
  | zero => exact ⟨0, Nat.zero_le _, h⟩
  | succ n ih =>
    obtain ⟨k, hik, hkj⟩ := h
    obtain ⟨m, hm, hrest⟩ := ih hkj
    by_cases hstay : i = k
    · exact ⟨m, hstay ▸ hm, hstay ▸ hrest⟩
    · have hfirst := hR i k hik
      have hup := hR.steps n k j hkj
      exact ⟨m + 1, by omega, k, hik, hrest⟩

end

/-! ### Expressions -/

/-- No repetition has an upper bound below its lower one. -/
def Expr.Proper : Expr → Prop
  | empty | chars _ | look _ => True
  | seq a b | alt a b => a.Proper ∧ b.Proper
  | rep a min max => a.Proper ∧ ∀ m ∈ max, min ≤ m

theorem Expr.upwards_spans (text : Array Char) (e : Expr) : Upwards text.size (e.Spans text) := by
  induction e with
  | empty => exact fun i j h => .inl h
  | chars cls =>
    rintro i j ⟨rfl, c, hc, -⟩
    obtain ⟨hi, -⟩ := Array.getElem?_eq_some_iff.mp hc
    exact .inr ⟨Nat.lt_succ_self i, hi⟩
  | look l => exact fun i j h => .inl h.1
  | seq a b iha ihb =>
    rintro i j ⟨k, hik, hkj⟩
    have hfirst := iha i k hik
    have hsecond := ihb k j hkj
    omega
  | alt a b iha ihb => exact fun i j h => h.elim (iha i j) (ihb i j)
  | rep a min max iha =>
    rintro i j ⟨n, -, -, h⟩
    exact iha.steps n i j h

/-- The number of further steps that `Expr.ends` takes is enough. -/
theorem Expr.spans_rep_iff {text : Array Char} {a : Expr} {min : Nat} {max : Option Nat}
    (hmax : ∀ m ∈ max, min ≤ m) (i j : Nat) :
    (rep a min max).Spans text i j ↔
      ∃ k, Steps (a.Spans text) min i k ∧
        ∃ n ≤ max.elim (text.size + 1) (· - min), Steps (a.Spans text) n k j := by
  have hup := a.upwards_spans text
  constructor
  · rintro ⟨n, hmin, hbound, h⟩
    obtain ⟨rest, rfl⟩ := Nat.exists_eq_add_of_le hmin
    obtain ⟨k, hik, hkj⟩ := steps_add.mp h
    cases max with
    | none =>
      obtain ⟨m, hm, hshort⟩ := exists_steps_le hup hkj
      have hend := hup.steps rest k j hkj
      exact ⟨k, hik, m, by simp only [Option.elim_none]; omega, hshort⟩
    | some max =>
      have hle := hbound max rfl
      exact ⟨k, hik, rest, by simp only [Option.elim_some]; omega, hkj⟩
  · rintro ⟨k, hik, n, hn, hkj⟩
    refine ⟨min + n, Nat.le_add_right _ _, ?_, steps_add.mpr ⟨k, hik, hkj⟩⟩
    rintro m hm
    have hle := hmax m hm
    rw [Option.mem_def.mp hm, Option.elim_some] at hn
    omega

/-- **Positions are taken to those that spans lead to.** -/
theorem Expr.moves_ends (text : Array Char) (e : Expr) (he : e.Proper) :
    Moves (e.Spans text) (e.ends text) := by
  induction e with
  | empty => intro ps j; simp [ends, Spans]
  | chars cls =>
    intro ps j
    simp only [ends, List.mem_map, List.mem_filter, Spans]
    constructor
    · rintro ⟨i, ⟨hi, hc⟩, rfl⟩
      cases hchar : text[i]? with
      | none => simp [hchar] at hc
      | some c => exact ⟨i, hi, rfl, c, hchar, by simpa [hchar] using hc⟩
    · rintro ⟨i, hi, rfl, c, hchar, hc⟩
      exact ⟨i, ⟨hi, by simpa [hchar] using hc⟩, rfl⟩
  | look l =>
    intro ps j
    simp only [ends, List.mem_filter, Spans, Bool.and_eq_true, decide_eq_true_eq]
    constructor
    · rintro ⟨hj, hle, hl⟩
      exact ⟨j, hj, rfl, hle, hl⟩
    · rintro ⟨i, hi, rfl, hle, hl⟩
      exact ⟨hi, hle, hl⟩
  | seq a b iha ihb =>
    have hb := ihb he.2
    have hends (ps : List Nat) : (seq a b).ends text ps = b.ends text (a.ends text ps) := by
      rw [ends]
      cases a.ends text ps with
      | nil => exact hb.step_nil.symm
      | cons q qs => rfl
    intro ps j
    rw [hends, hb]
    constructor
    · rintro ⟨k, hk, hkj⟩
      obtain ⟨i, hi, hik⟩ := (iha he.1 ps k).mp hk
      exact ⟨i, hi, k, hik, hkj⟩
    · rintro ⟨i, hi, k, hik, hkj⟩
      exact ⟨k, (iha he.1 ps k).mpr ⟨i, hi, hik⟩, hkj⟩
  | alt a b iha ihb =>
    intro ps j
    rw [ends, mem_unionPositions, iha he.1, ihb he.2]
    simp only [Spans, and_or_left, exists_or]
  | rep a min max iha =>
    have ha := iha he.1
    have hends (ps : List Nat) : (rep a min max).ends text ps =
        stepsUpTo (a.ends text) (max.elim (text.size + 1) (· - min))
          (stepsExactly (a.ends text) min ps) := by
      cases max <;> rfl
    intro ps j
    simp only [hends, mem_stepsUpTo ha, mem_stepsExactly ha, spans_rep_iff he.2]
    constructor
    · rintro ⟨n, hn, k, ⟨i, hi, hik⟩, hkj⟩
      exact ⟨i, hi, k, hik, n, hn, hkj⟩
    · rintro ⟨i, hi, k, hik, n, hn, hkj⟩
      exact ⟨n, hn, k, ⟨i, hi, hik⟩, hkj⟩

/-- **An expression matches in a text** if and only if it stands for some stretch of the text. -/
theorem Expr.matchesIn_iff {e : Expr} (he : e.Proper) (text : Array Char) :
    e.matchesIn text = true ↔ ∃ i ≤ text.size, ∃ j, e.Spans text i j := by
  rw [matchesIn, Bool.not_eq_true', ← Bool.not_eq_true, List.isEmpty_iff,
    List.eq_nil_iff_forall_not_mem, not_forall_not]
  simp only [e.moves_ends text he _ _, List.mem_range, Nat.lt_succ_iff]
  constructor
  · rintro ⟨j, i, hi, h⟩
    exact ⟨i, hi, j, h⟩
  · rintro ⟨i, hi, j, h⟩
    exact ⟨j, i, hi, h⟩

end VariantStrip.Pattern
