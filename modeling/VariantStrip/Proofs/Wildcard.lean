/-
What wildcards accept.

A wildcard is matched through the pattern that is written for it.  What it means is said without
patterns: a text is read off a wildcard in parts, one for each of its characters (`ReadsOff`).

* `Expr.denotes_seqs` — a sequence stands for texts made of parts, wherever it stands in a text,
* `denotes_partExpr` — the expression for a character of a wildcard stands for just the parts that
  the character stands for,
* `matchesIn_expr_iff` — so the anchored expression of the whole wildcard matches in the texts that
  can be read off it,
* `readsOff_append` — of two wildcards in a row the texts are read off one after the other, which
  leads to the texts of a plain wildcard with stars around it.

The main results are `wildcard_reads_off`, what a wildcard accepts, and `wildcard_beside_plain`, how
this compares with plain filters.  A star does not stand for a newline, and there the two differ.
-/
import VariantStrip.Proofs.Comparison
import VariantStrip.Proofs.Matching
import VariantStrip.Proofs.WildcardPattern

namespace VariantStrip

open Unicode (CharClass)

/-! ### The texts that expressions stand for -/

namespace Pattern.Expr

/-- Wherever it stands, the expression stands for the texts of a language. -/
def Denotes (e : Expr) (L : List Char → Prop) : Prop :=
  ∀ (before text : List Char) (j : Nat), e.Spans (before ++ text).toArray before.length j ↔
    ∃ part rest, text = part ++ rest ∧ L part ∧ j = before.length + part.length

theorem denotes_chars (cls : CharClass) :
    (chars cls).Denotes fun part => ∃ c, cls.contains c = true ∧ part = [c] := by
  intro before text j
  have hget : (before ++ text).toArray[before.length]? = text.head? := by
    rw [List.getElem?_toArray, List.getElem?_append_right (Nat.le_refl _), Nat.sub_self,
      List.head?_eq_getElem?]
  constructor
  · rintro ⟨rfl, c, hc, hcls⟩
    rw [hget] at hc
    obtain ⟨rest, rfl⟩ := List.head?_eq_some_iff.mp hc
    exact ⟨[c], rest, rfl, ⟨c, hcls, rfl⟩, rfl⟩
  · rintro ⟨-, rest, rfl, ⟨c, hcls, rfl⟩, rfl⟩
    exact ⟨rfl, c, hget, hcls⟩

/-- Repeating the characters of a class reads a run of them. -/
theorem steps_chars_iff (cls : CharClass) (n : Nat) (before text : List Char) (j : Nat) :
    Steps ((chars cls).Spans (before ++ text).toArray) n before.length j ↔
      ∃ part rest, text = part ++ rest ∧ (part.length = n ∧ ∀ c ∈ part, cls.contains c = true) ∧
        j = before.length + part.length := by
  induction n generalizing before text with
  | zero =>
    constructor
    · rintro rfl
      exact ⟨[], text, rfl, ⟨rfl, by simp⟩, rfl⟩
    · rintro ⟨part, rest, rfl, ⟨hpart, -⟩, rfl⟩
      rw [hpart]
      rfl
  | succ n ih =>
    constructor
    · rintro ⟨k, hfirst, hsteps⟩
      obtain ⟨-, rest, rfl, ⟨c, hc, rfl⟩, rfl⟩ := (denotes_chars cls before text k).mp hfirst
      rw [← List.append_assoc] at hsteps
      obtain ⟨part, rest, rfl, ⟨hlength, hpart⟩, rfl⟩ := (ih (before ++ [c]) rest).mp (by
        simpa using hsteps)
      refine ⟨c :: part, rest, rfl, ⟨by rw [List.length_cons, hlength], ?_⟩, by simp; omega⟩
      exact List.forall_mem_cons.mpr ⟨hc, hpart⟩
    · rintro ⟨part, rest, rfl, ⟨hlength, hpart⟩, rfl⟩
      obtain ⟨c, part, rfl⟩ := List.exists_cons_of_length_eq_add_one hlength
      rw [List.forall_mem_cons] at hpart
      refine ⟨before.length + 1, ?_, ?_⟩
      · exact (denotes_chars cls before _ _).mpr ⟨[c], part ++ rest, rfl, ⟨c, hpart.1, rfl⟩, rfl⟩
      · have hrest := (ih (before ++ [c]) (part ++ rest)).mpr
          ⟨part, rest, rfl, ⟨by simpa using hlength, hpart.2⟩, by simp; omega⟩
        rwa [List.length_append, List.append_assoc] at hrest

theorem denotes_run (cls : CharClass) :
    (rep (chars cls) 0 none).Denotes fun part => ∀ c ∈ part, cls.contains c = true := by
  intro before text j
  constructor
  · rintro ⟨n, -, -, h⟩
    obtain ⟨part, rest, htext, ⟨-, hpart⟩, hj⟩ := (steps_chars_iff cls n before text j).mp h
    exact ⟨part, rest, htext, hpart, hj⟩
  · rintro ⟨part, rest, htext, hpart, hj⟩
    refine ⟨part.length, Nat.zero_le _, by simp, ?_⟩
    exact (steps_chars_iff cls _ before text j).mpr ⟨part, rest, htext, ⟨rfl, hpart⟩, hj⟩

theorem spans_seqs_cons {text : Array Char} {e : Expr} {es : List Expr} {i j : Nat} :
    (seqs (e :: es)).Spans text i j ↔ ∃ k, e.Spans text i k ∧ (seqs es).Spans text k j := by
  cases es with
  | nil => simp [seqs, Spans]
  | cons e' es => rfl

theorem spans_seqs_append {text : Array Char} {es fs : List Expr} {i j : Nat} :
    (seqs (es ++ fs)).Spans text i j ↔
      ∃ k, (seqs es).Spans text i k ∧ (seqs fs).Spans text k j := by
  induction es generalizing i with
  | nil => simp [seqs, Spans]
  | cons e es ih =>
    rw [List.cons_append, spans_seqs_cons]
    simp only [ih, spans_seqs_cons]
    constructor
    · rintro ⟨k, hik, l, hkl, hlj⟩
      exact ⟨l, ⟨k, hik, hkl⟩, hlj⟩
    · rintro ⟨l, ⟨k, hik, hkl⟩, hlj⟩
      exact ⟨k, hik, l, hkl, hlj⟩

/-- **A sequence stands for texts made of parts**, one for each of its expressions. -/
theorem denotes_seqs {es : List Expr} {Ls : List (List Char → Prop)}
    (h : List.Forall₂ Denotes es Ls) :
    (seqs es).Denotes fun part =>
      ∃ parts : List (List Char),
        List.Forall₂ (fun L p => L p) Ls parts ∧ parts.flatten = part := by
  induction h with
  | nil =>
    intro before text j
    constructor
    · rintro rfl
      exact ⟨[], text, rfl, ⟨[], .nil, rfl⟩, rfl⟩
    · rintro ⟨part, rest, rfl, ⟨parts, hparts, rfl⟩, rfl⟩
      cases hparts
      rfl
  | @cons e L es Ls he hes ih =>
    intro before text j
    rw [spans_seqs_cons]
    constructor
    · rintro ⟨k, hfirst, hrest⟩
      obtain ⟨p, more, rfl, hp, rfl⟩ := (he before text k).mp hfirst
      -- For the rest of the sequence, the part that has been read stands before the text.
      rw [← List.append_assoc, ← List.length_append] at hrest
      obtain ⟨part, rest, rfl, ⟨parts, hparts, rfl⟩, rfl⟩ := (ih (before ++ p) more j).mp hrest
      refine ⟨p ++ parts.flatten, rest, by simp, ⟨p :: parts, .cons hp hparts, rfl⟩, ?_⟩
      simp [Nat.add_assoc]
    · rintro ⟨part, rest, rfl, ⟨parts, hparts, rfl⟩, rfl⟩
      obtain ⟨p, tail, hp, htail, rfl⟩ := List.forall₂_cons_left_iff.mp hparts
      refine ⟨before.length + p.length, ?_, ?_⟩
      · exact (he before _ _).mpr ⟨p, tail.flatten ++ rest, by simp, hp, rfl⟩
      · have hrest := (ih (before ++ p) (tail.flatten ++ rest) _).mpr
          ⟨tail.flatten, rest, rfl, ⟨tail, htail, rfl⟩, rfl⟩
        simpa [Nat.add_assoc] using hrest

theorem proper_seqs {es : List Expr} (h : ∀ e ∈ es, e.Proper) : (seqs es).Proper := by
  induction es with
  | nil => trivial
  | cons e es ih =>
    rw [List.forall_mem_cons] at h
    cases es with
    | nil => exact h.1
    | cons e' es => exact ⟨h.1, ih h.2⟩

end Pattern.Expr

namespace Wildcard

open Pattern

/-! ### Reading texts off wildcards -/

/-- A character of a wildcard and one of a text are the same, up to case if it is ignored. -/
def Alike (ignoreCase : Bool) (a c : Char) : Prop :=
  if ignoreCase then a ∈ Unicode.caseOrbit c else a = c

/-- The parts of texts that a character of a wildcard stands for: a star stands for any run of
characters other than newlines, a question mark for one of these, and every other character for
itself. -/
def StandsFor (ignoreCase : Bool) (a : Char) (part : List Char) : Prop :=
  if a = '*' then ∀ c ∈ part, c ≠ '\n'
  else if a = '?' then ∃ c, c ≠ '\n' ∧ part = [c]
  else ∃ c, Alike ignoreCase a c ∧ part = [c]

/-- The whole text can be read off the wildcard, part by part. -/
def ReadsOff (ignoreCase : Bool) (wildcard text : List Char) : Prop :=
  ∃ parts : List (List Char),
    List.Forall₂ (StandsFor ignoreCase) wildcard parts ∧ parts.flatten = text

theorem contains_anyChar (c : Char) : anyChar.contains c = true ↔ c ≠ '\n' := by
  rw [anyChar, CharClass.contains_compl, Bool.not_eq_true', ← Bool.not_eq_true,
    CharClass.contains_single]

theorem contains_sameChar (ignoreCase : Bool) (a c : Char) :
    (sameChar ignoreCase a).contains c = true ↔ Alike ignoreCase a c := by
  cases ignoreCase with
  | false =>
    show (CharClass.single a).contains c = true ↔ a = c
    rw [CharClass.contains_single, eq_comm]
  | true =>
    show ((Unicode.caseOrbit c).any fun d => (CharClass.single a).contains d) = true ↔
      a ∈ Unicode.caseOrbit c
    simp

/-- **The expression for a character stands for what the character stands for.** -/
theorem denotes_partExpr (ignoreCase : Bool) (a : Char) :
    (partExpr ignoreCase a).Denotes (StandsFor ignoreCase a) := by
  intro before text j
  unfold StandsFor
  rw [partExpr]
  by_cases hstar : a = '*'
  · simp only [if_pos hstar, ← contains_anyChar]
    exact Expr.denotes_run anyChar before text j
  · by_cases hquestion : a = '?'
    · simp only [if_neg hstar, if_pos hquestion, ← contains_anyChar]
      exact Expr.denotes_chars anyChar before text j
    · simp only [if_neg hstar, if_neg hquestion, ← contains_sameChar]
      exact Expr.denotes_chars (sameChar ignoreCase a) before text j

theorem proper_partExpr (ignoreCase : Bool) (a : Char) : (partExpr ignoreCase a).Proper := by
  rw [partExpr]
  by_cases hstar : a = '*'
  · simp [hstar, Expr.Proper]
  · by_cases hquestion : a = '?'
    · simp [hquestion, Expr.Proper]
    · simp [hstar, hquestion, Expr.Proper]

theorem proper_expr (ignoreCase : Bool) (w : List Char) : (expr ignoreCase w).Proper := by
  refine Expr.proper_seqs fun e he => ?_
  simp only [List.mem_cons, List.mem_append, List.mem_map, List.not_mem_nil, or_false] at he
  rcases he with rfl | ⟨a, -, rfl⟩ | rfl
  · trivial
  · exact proper_partExpr ignoreCase a
  · trivial

/-- **The expression of a wildcard matches in the texts that can be read off the wildcard.** -/
theorem matchesIn_expr_iff (ignoreCase : Bool) (w text : List Char) :
    (expr ignoreCase w).matchesIn text.toArray = true ↔ ReadsOff ignoreCase w text := by
  have hparts : List.Forall₂ Expr.Denotes (w.map (partExpr ignoreCase))
      (w.map (StandsFor ignoreCase)) := by
    rw [List.forall₂_map_left_iff, List.forall₂_map_right_iff, List.forall₂_same]
    exact fun a _ => denotes_partExpr ignoreCase a
  have hmiddle := Expr.denotes_seqs hparts [] text
  simp only [List.forall₂_map_left_iff, List.nil_append, List.length_nil, Nat.zero_add] at hmiddle
  rw [Expr.matchesIn_iff (proper_expr ignoreCase w), expr]
  simp only [Expr.spans_seqs_cons, Expr.spans_seqs_append]
  constructor
  · rintro ⟨i, -, j, k, ⟨rfl, -, hstart⟩, l, hspans, m, ⟨rfl, -, hend⟩, rfl⟩
    have hi : i = 0 := beq_iff_eq.mp hstart
    have hl : l = text.length := beq_iff_eq.mp hend
    rw [hi, hmiddle] at hspans
    obtain ⟨part, rest, htext, hpart, hlength⟩ := hspans
    -- The last anchor leaves nothing over.
    have hrest : rest = [] := by
      rw [htext, List.length_append] at hl
      exact List.length_eq_zero_iff.mp (by omega)
    rw [htext, hrest, List.append_nil]
    exact hpart
  · intro h
    have hspans := (hmiddle text.length).mpr ⟨text, [], (List.append_nil _).symm, h, rfl⟩
    exact ⟨0, Nat.zero_le _, text.length, 0, ⟨rfl, Nat.zero_le _, rfl⟩, text.length, hspans,
      text.length, ⟨rfl, Nat.le_refl _, beq_self_eq_true _⟩, rfl⟩

theorem accepts_iff_readsOff [Capacity] {wildcard : String} {ignoreCase : Bool} {m : Matcher}
    (hm : Matcher.ofFilter { matchType := .wildcard, pattern := wildcard, ignoreCase } = .ok m)
    (text : String) : m.accepts text = true ↔ ReadsOff ignoreCase wildcard.toList text.toList := by
  obtain ⟨-, rfl⟩ := ofFilter_wildcard_eq_ok_iff.mp hm
  exact matchesIn_expr_iff ignoreCase wildcard.toList text.toList

/-- **A wildcard accepts what can be read off it.**  It can be made ready for matching if and only
if there is room for the pattern that is written for it. -/
theorem wildcard_reads_off [Capacity] (wildcard : String) (ignoreCase : Bool) :
    ((∃ m, Matcher.ofFilter { matchType := .wildcard, pattern := wildcard, ignoreCase } = .ok m) ↔
      Capacity.admits ignoreCase (patternChars wildcard.toList) = true) ∧
    ∀ m, Matcher.ofFilter { matchType := .wildcard, pattern := wildcard, ignoreCase } = .ok m →
      ∀ text : String,
        m.accepts text = true ↔ ReadsOff ignoreCase wildcard.toList text.toList := by
  refine ⟨⟨?_, fun hadmits => ?_⟩, fun m hm => accepts_iff_readsOff hm⟩
  · rintro ⟨m, hm⟩
    exact (ofFilter_wildcard_eq_ok_iff.mp hm).1
  · exact ⟨_, ofFilter_wildcard_eq_ok_iff.mpr ⟨hadmits, rfl⟩⟩

/-- A backslash in front of a star stands for itself, and it does not quote the star. -/
theorem wildcard_reads_off_backslash :
    (∃ m, Matcher.ofFilter { matchType := .wildcard, pattern := "\\*.?", ignoreCase := true } =
        .ok m ∧ m.accepts "\\aB.c" = true ∧ m.accepts "*.c" = false) ∧
      ReadsOff true "\\*.?".toList "\\aB.c".toList ∧
      ¬ ReadsOff true "\\*.?".toList "*.c".toList := by
  have hm : Matcher.ofFilter { matchType := .wildcard, pattern := "\\*.?", ignoreCase := true } =
      .ok (.compiled ⟨expr true "\\*.?".toList⟩) :=
    ofFilter_wildcard_eq_ok_iff.mpr ⟨by decide +kernel, rfl⟩
  have hreads := (wildcard_reads_off "\\*.?" true).2 _ hm
  have hyes : Matcher.accepts (.compiled ⟨expr true "\\*.?".toList⟩) "\\aB.c" = true := by
    decide +kernel
  have hno : Matcher.accepts (.compiled ⟨expr true "\\*.?".toList⟩) "*.c" = false := by
    decide +kernel
  refine ⟨⟨_, hm, hyes, hno⟩, (hreads "\\aB.c").mp hyes, fun h => ?_⟩
  exact Bool.false_ne_true (hno.symm.trans ((hreads "*.c").mpr h))

/-! ### Plain wildcards with stars around them -/

section

variable {ignoreCase : Bool} {v w text : List Char}

theorem readsOff_nil : ReadsOff ignoreCase [] text ↔ text = [] := by
  constructor
  · rintro ⟨parts, hparts, rfl⟩
    cases hparts
    rfl
  · rintro rfl
    exact ⟨[], .nil, rfl⟩

theorem readsOff_cons {a : Char} :
    ReadsOff ignoreCase (a :: w) text ↔
      ∃ part rest, text = part ++ rest ∧ StandsFor ignoreCase a part ∧
        ReadsOff ignoreCase w rest := by
  constructor
  · rintro ⟨parts, hparts, rfl⟩
    obtain ⟨part, tail, hpart, htail, rfl⟩ := List.forall₂_cons_left_iff.mp hparts
    exact ⟨part, tail.flatten, rfl, hpart, tail, htail, rfl⟩
  · rintro ⟨part, rest, rfl, hpart, tail, htail, rfl⟩
    exact ⟨part :: tail, .cons hpart htail, rfl⟩

/-- **Of two wildcards in a row the texts are read off one after the other.** -/
theorem readsOff_append :
    ReadsOff ignoreCase (v ++ w) text ↔
      ∃ front back, text = front ++ back ∧ ReadsOff ignoreCase v front ∧
        ReadsOff ignoreCase w back := by
  induction v generalizing text with
  | nil => simp [readsOff_nil]
  | cons a v ih =>
    rw [List.cons_append, readsOff_cons]
    simp only [ih, readsOff_cons]
    constructor
    · rintro ⟨part, rest, rfl, hpart, front, back, rfl, hfront, hback⟩
      exact ⟨part ++ front, back, (List.append_assoc _ _ _).symm, ⟨part, front, rfl, hpart, hfront⟩,
        hback⟩
    · rintro ⟨front, back, rfl, ⟨part, rest, rfl, hpart, hrest⟩, hback⟩
      exact ⟨part, rest ++ back, List.append_assoc _ _ _, hpart, rest, back, rfl, hrest, hback⟩

theorem readsOff_star : ReadsOff ignoreCase ['*'] text ↔ '\n' ∉ text := by
  rw [readsOff_cons]
  simp only [StandsFor, if_pos, readsOff_nil]
  constructor
  · rintro ⟨part, rest, rfl, hpart, rfl⟩ hmem
    rw [List.append_nil] at hmem
    exact hpart _ hmem rfl
  · intro h
    exact ⟨text, [], (List.append_nil text).symm, fun c hc hnewline => h (hnewline ▸ hc), rfl⟩

theorem readsOff_plain (hstar : '*' ∉ w) (hquestion : '?' ∉ w) :
    ReadsOff false w text ↔ text = w := by
  induction w generalizing text with
  | nil => exact readsOff_nil
  | cons a w ih =>
    rw [List.mem_cons, not_or] at hstar hquestion
    rw [readsOff_cons]
    simp only [ih hstar.2 hquestion.2, StandsFor, if_neg (Ne.symm hstar.1),
      if_neg (Ne.symm hquestion.1), Alike, Bool.false_eq_true, if_false]
    constructor
    · rintro ⟨-, -, rfl, ⟨c, rfl, rfl⟩, rfl⟩
      rfl
    · rintro rfl
      exact ⟨[a], w, rfl, ⟨a, rfl, rfl⟩, rfl⟩

end

end Wildcard

namespace Comparison

/-- The wildcard that asks for the same as a plain filter. -/
def wildcard (pattern : String) : Comparison → String
  | equals => pattern
  | contains => "*" ++ pattern ++ "*"
  | startsWith => pattern ++ "*"
  | endsWith => "*" ++ pattern

/-- As `Relates`, where what is left over of the text holds no newline. -/
def RelatesInLine (pattern text : List Char) : Comparison → Prop
  | equals => text = pattern
  | contains => ∃ before after, text = before ++ pattern ++ after ∧ '\n' ∉ before ∧ '\n' ∉ after
  | startsWith => ∃ after, text = pattern ++ after ∧ '\n' ∉ after
  | endsWith => ∃ before, text = before ++ pattern ∧ '\n' ∉ before

/-- **On one line both are the same.** -/
theorem relatesInLine_iff_relates {how : Comparison} {pattern text : List Char}
    (h : how = equals ∨ '\n' ∉ text) :
    how.RelatesInLine pattern text ↔ how.Relates pattern text := by
  cases how with
  | equals => rfl
  | contains =>
    have htext : '\n' ∉ text := h.resolve_left nofun
    constructor
    · rintro ⟨before, after, rfl, -⟩
      exact ⟨before, after, rfl⟩
    · rintro ⟨before, after, rfl⟩
      simp only [List.mem_append, not_or] at htext
      exact ⟨before, after, rfl, htext.1.1, htext.2⟩
  | startsWith =>
    have htext : '\n' ∉ text := h.resolve_left nofun
    constructor
    · rintro ⟨after, rfl, -⟩
      exact ⟨after, rfl⟩
    · rintro ⟨after, rfl⟩
      simp only [List.mem_append, not_or] at htext
      exact ⟨after, rfl, htext.2⟩
  | endsWith =>
    have htext : '\n' ∉ text := h.resolve_left nofun
    constructor
    · rintro ⟨before, rfl, -⟩
      exact ⟨before, rfl⟩
    · rintro ⟨before, rfl⟩
      simp only [List.mem_append, not_or] at htext
      exact ⟨before, rfl, htext.1⟩

/-- **The wildcard asks for the same, but stars keep to one line.** -/
theorem readsOff_wildcard_iff (how : Comparison) {pattern : String} {text : List Char}
    (hstar : '*' ∉ pattern.toList) (hquestion : '?' ∉ pattern.toList) :
    Wildcard.ReadsOff false (how.wildcard pattern).toList text ↔
      how.RelatesInLine pattern.toList text := by
  have hplain {part : List Char} :
      Wildcard.ReadsOff false pattern.toList part ↔ part = pattern.toList :=
    Wildcard.readsOff_plain hstar hquestion
  have hstars : "*".toList = ['*'] := rfl
  cases how with
  | equals => exact hplain
  | contains =>
    simp only [wildcard, RelatesInLine, String.toList_append, hstars, Wildcard.readsOff_append,
      hplain, Wildcard.readsOff_star]
    constructor
    · rintro ⟨-, after, rfl, ⟨before, -, rfl, hbefore, rfl⟩, hafter⟩
      exact ⟨before, after, rfl, hbefore, hafter⟩
    · rintro ⟨before, after, rfl, hbefore, hafter⟩
      exact ⟨_, after, rfl, ⟨before, _, rfl, hbefore, rfl⟩, hafter⟩
  | startsWith =>
    simp only [wildcard, RelatesInLine, String.toList_append, hstars, Wildcard.readsOff_append,
      hplain, Wildcard.readsOff_star]
    constructor
    · rintro ⟨-, after, rfl, rfl, hafter⟩
      exact ⟨after, rfl, hafter⟩
    · rintro ⟨after, rfl, hafter⟩
      exact ⟨_, after, rfl, rfl, hafter⟩
  | endsWith =>
    simp only [wildcard, RelatesInLine, String.toList_append, hstars, Wildcard.readsOff_append,
      hplain, Wildcard.readsOff_star]
    constructor
    · rintro ⟨before, -, rfl, hbefore, rfl⟩
      exact ⟨before, rfl, hbefore⟩
    · rintro ⟨before, rfl, hbefore⟩
      exact ⟨before, _, rfl, hbefore, rfl⟩

end Comparison

/-- **Wildcards compare with plain filters on single lines.**  A wildcard without stars and question
marks, by itself or with stars around it, accepts what the plain filter accepts, if what is left
over of the text holds no newline.  So it takes a newline to tell the two filters apart, and the
filter that is used unless another is configured accepts the texts without newlines. -/
theorem wildcard_beside_plain [Pattern.Capacity] (text : String) :
    (∀ (how : Comparison) (pattern : String), '*' ∉ pattern.toList → '?' ∉ pattern.toList →
      ∀ m, Matcher.ofFilter { matchType := .wildcard, pattern := how.wildcard pattern } = .ok m →
        (m.accepts text = true ↔ how.RelatesInLine pattern.toList text.toList) ∧
        (how = .equals ∨ '\n' ∉ text.toList →
          StringFilter.accepts { matchType := how.matchType, pattern } (some text) =
            .ok (m.accepts text))) ∧
      StringFilter.accepts {} (some text) = .ok (decide ('\n' ∉ text.toList)) := by
  constructor
  · intro how pattern hstar hquestion m hm
    have haccepts : m.accepts text = true ↔ how.RelatesInLine pattern.toList text.toList := by
      rw [Wildcard.accepts_iff_readsOff hm]
      exact how.readsOff_wildcard_iff hstar hquestion
    refine ⟨haccepts, fun h => ?_⟩
    have hsame : how.holds pattern.toList text.toList = m.accepts text := by
      rw [Bool.eq_iff_iff, haccepts, Comparison.relatesInLine_iff_relates h]
      exact how.holds_iff pattern.toList text.toList
    rw [← hsame]
    exact StringFilter.accepts_plain how pattern text false
  · -- There is room for a single star.
    have hm : Matcher.ofFilter {} = .ok (.compiled ⟨Wildcard.expr false "*".toList⟩) :=
      Wildcard.ofFilter_wildcard_eq_ok_iff.mpr ⟨Pattern.Capacity.admits_star false, rfl⟩
    have haccepts := Wildcard.accepts_iff_readsOff hm text
    rw [show "*".toList = ['*'] from rfl, Wildcard.readsOff_star] at haccepts
    rw [StringFilter.accepts, hm]
    exact congrArg Except.ok (Bool.eq_iff_iff.mpr (haccepts.trans decide_eq_true_iff.symm))

/-- With stars around it the text `a+(` is found on a single line, as by the plain filter, and it is
not found in front of the end of a line. -/
theorem wildcard_beside_plain_metacharacters :
    '*' ∉ "a+(".toList ∧ '?' ∉ "a+(".toList ∧
      (∃ m, Matcher.ofFilter
          { matchType := .wildcard, pattern := Comparison.contains.wildcard "a+(" } = .ok m ∧
        m.accepts "xa+(y" = true ∧ m.accepts "xa+(\n" = false) ∧
      StringFilter.accepts { matchType := .contains, pattern := "a+(" } (some "xa+(y") = .ok true ∧
      ¬ Comparison.contains.RelatesInLine "a+(".toList "xa+(\n".toList := by
  have hstar : '*' ∉ "a+(".toList := by decide
  have hquestion : '?' ∉ "a+(".toList := by decide
  have hm : Matcher.ofFilter
      { matchType := .wildcard, pattern := Comparison.contains.wildcard "a+(" } =
        .ok (.compiled ⟨Wildcard.expr false "*a+(*".toList⟩) :=
    Wildcard.ofFilter_wildcard_eq_ok_iff.mpr ⟨by decide +kernel, rfl⟩
  have hyes : Matcher.accepts (.compiled ⟨Wildcard.expr false "*a+(*".toList⟩) "xa+(y" = true := by
    decide +kernel
  have hno : Matcher.accepts (.compiled ⟨Wildcard.expr false "*a+(*".toList⟩) "xa+(\n" = false := by
    decide +kernel
  have hone := ((wildcard_beside_plain "xa+(y").1 .contains "a+(" hstar hquestion _ hm).2
  have htwo := ((wildcard_beside_plain "xa+(\n").1 .contains "a+(" hstar hquestion _ hm).1
  rw [hyes] at hone
  rw [hno] at htwo
  exact ⟨hstar, hquestion, ⟨_, hm, hyes, hno⟩, hone (.inr (by decide)), by simpa using htwo.not⟩

/-- A newline starts with the empty text and is not accepted by a star. -/
theorem star_refuses_newline :
    StringFilter.accepts { matchType := .startsWith, pattern := "" } (some "\n") = .ok true ∧
      StringFilter.accepts { matchType := .wildcard, pattern := "*" } (some "\n") = .ok false :=
  ⟨rfl, by decide +kernel⟩

end VariantStrip
