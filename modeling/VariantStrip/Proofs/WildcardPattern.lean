/-
The pattern of a wildcard.

The pattern is written by quoting the whole wildcard and replacing what has become of its stars and
question marks, and it is read by the parser of patterns.  Both go through the wildcard character by
character:

* `patternChars_eq` — a replacement finds just the quoted characters that it is meant for, although
  a quoted backslash may stand in front of them (`replaceAll_flatMap`); so the pattern is made of
  the `partChars` of each character,
* `parse?_patternChars` — what is read is an `item` for each character between the two anchors, by
  `run_partChars` on one character,
* `exprOf?_patternChars` — so the pattern means `expr`, an expression for each character.

The main result is `ofFilter_wildcard`: a wildcard is refused only if there is no room for it.
-/
import Mathlib.Data.List.Forall2
import VariantStrip.Matcher

namespace VariantStrip.Wildcard

/-! ### Replacing quoted characters -/

section

variable {c : Char} {new : List Char}

theorem replaceAll_quoted (rest : List Char) :
    replaceAll ['\\', c] new ('\\' :: c :: rest) = new ++ replaceAll ['\\', c] new rest := by
  simp [replaceAll, replaceAfter]

/-- A character stays if it is no backslash, or what follows is not the character looked for. -/
theorem replaceAll_cons {a : Char} {rest : List Char} (h : a = '\\' → rest.head? ≠ some c) :
    replaceAll ['\\', c] new (a :: rest) = a :: replaceAll ['\\', c] new rest := by
  have hplace : List.isPrefixOf ['\\', c] (a :: rest) = false := by
    cases rest with
    | nil => simp [List.isPrefixOf]
    | cons b rest =>
      simp only [List.head?_cons, ne_eq, Option.some.injEq] at h
      simp only [List.isPrefixOf, Bool.and_true, Bool.and_eq_false_iff, beq_eq_false_iff_ne]
      by_cases ha : a = '\\'
      · exact .inr (Ne.symm (h ha))
      · exact .inl (Ne.symm ha)
  rw [replaceAll, replaceAfter, if_neg (Bool.eq_false_iff.mp hplace), ← replaceAll]

theorem replaceAll_append {xs rest : List Char} (hxs : '\\' ∉ xs) :
    replaceAll ['\\', c] new (xs ++ rest) = xs ++ replaceAll ['\\', c] new rest := by
  induction xs with
  | nil => rfl
  | cons x xs ih =>
    rw [List.mem_cons, not_or] at hxs
    rw [List.cons_append, replaceAll_cons fun hx => absurd hx.symm hxs.1, ih hxs.2,
      List.cons_append]

/-- A part of a text in which `c` is quoted: no backslash quotes anything outside of the part, and
the part does not start with `c`. -/
structure Part (c : Char) (xs : List Char) : Prop where
  closed : '\\' ∉ xs ∨ ∃ d, xs = ['\\', d]
  head : xs.head? ≠ some c
  ne_nil : xs ≠ []

theorem head?_flatMap_ne {f : Char → List Char} (hf : ∀ a, Part c (f a)) (w : List Char) :
    (w.flatMap f).head? ≠ some c := by
  cases w with
  | nil => simp
  | cons a w =>
    obtain ⟨x, xs, hx⟩ := List.exists_cons_of_ne_nil (hf a).ne_nil
    have hhead := (hf a).head
    rw [hx] at hhead
    rw [List.flatMap_cons, hx]
    exact hhead

/-- **A replacement goes part by part.** -/
theorem replaceAll_flatMap {f : Char → List Char} (hf : ∀ a, Part c (f a)) (w : List Char) :
    replaceAll ['\\', c] new (w.flatMap f) =
      w.flatMap fun a => if f a = ['\\', c] then new else f a := by
  induction w with
  | nil => rfl
  | cons a w ih =>
    rw [List.flatMap_cons, List.flatMap_cons, ← ih]
    have hrest := head?_flatMap_ne hf w
    rcases (hf a).closed with hfree | ⟨d, hd⟩
    · have hne : f a ≠ ['\\', c] := fun h => hfree (h ▸ List.mem_cons_self)
      rw [if_neg hne, replaceAll_append hfree]
    · rw [hd]
      by_cases hdc : d = c
      · rw [if_pos (by rw [hdc]), hdc]
        exact replaceAll_quoted _
      · -- The backslash quotes another character, which may be a backslash itself.
        have hne : ['\\', d] ≠ ['\\', c] := fun h => hdc (by simpa using h)
        rw [if_neg hne]
        have hsecond : (d :: w.flatMap f).head? ≠ some c := by simpa using hdc
        exact (replaceAll_cons fun _ => hsecond).trans
          (congrArg _ (replaceAll_cons fun _ => hrest))

end

/-- The pattern that a character of a wildcard becomes. -/
def partChars (c : Char) : List Char :=
  if c = '*' then ['.', '*'] else if c = '?' then ['.'] else quoteChar c

theorem quoteChar_cases (c : Char) :
    (Pattern.isMeta c = true ∧ quoteChar c = ['\\', c]) ∨
      (Pattern.isMeta c = false ∧ quoteChar c = [c]) := by
  rw [quoteChar]
  cases hc : Pattern.isMeta c with
  | true => exact .inl ⟨rfl, rfl⟩
  | false => exact .inr ⟨rfl, rfl⟩

theorem ne_of_isMeta {c d : Char} (hc : Pattern.isMeta c = false)
    (hd : Pattern.isMeta d = true) : c ≠ d := by
  rintro rfl
  exact Bool.false_ne_true (hc.symm.trans hd)

theorem part_quoteChar {d : Char} (hd : Pattern.isMeta d = true) (hne : d ≠ '\\') (c : Char) :
    Part d (quoteChar c) := by
  rcases quoteChar_cases c with ⟨-, h⟩ | ⟨hc, h⟩
  · rw [h]
    exact ⟨.inr ⟨c, rfl⟩, by simpa using hne.symm, by simp⟩
  · rw [h]
    exact ⟨.inl (by simpa using (ne_of_isMeta hc (by decide)).symm),
      by simpa using ne_of_isMeta hc hd, by simp⟩

/-- **The pattern goes through the wildcard character by character.** -/
theorem patternChars_eq (w : List Char) :
    patternChars w = '^' :: (w.flatMap partChars ++ ['$']) := by
  have hstars : replaceAll ['\\', '*'] ['.', '*'] (quote w) =
      w.flatMap fun a => if quoteChar a = ['\\', '*'] then ['.', '*'] else quoteChar a :=
    replaceAll_flatMap (part_quoteChar (by decide) (by decide)) w
  have hparts (a : Char) :
      Part '?' (if quoteChar a = ['\\', '*'] then ['.', '*'] else quoteChar a) := by
    by_cases ha : quoteChar a = ['\\', '*']
    · rw [if_pos ha]
      exact ⟨.inl (by decide), by decide, by decide⟩
    · rw [if_neg ha]
      exact part_quoteChar (by decide) (by decide) a
  have hquoted {d : Char} (hd : Pattern.isMeta d = true) (a : Char) :
      quoteChar a = ['\\', d] ↔ a = d := by
    rcases quoteChar_cases a with ⟨-, h⟩ | ⟨ha, h⟩
    · simp [h]
    · simp [h, ne_of_isMeta ha hd]
  rw [patternChars, hstars, replaceAll_flatMap hparts]
  congr 3
  funext a
  rw [partChars]
  simp only [hquoted (d := '*') (by decide)]
  by_cases hstar : a = '*'
  · rw [if_pos hstar, if_pos hstar]
    rfl
  · simp only [if_neg hstar, hquoted (d := '?') (by decide)]

/-! ### Reading the pattern -/

open Pattern

/-- What a character of a wildcard is read as. -/
def item (c : Char) : Ast :=
  if c = '*' then .repetition .dot 0 none
  else if c = '?' then .dot
  else .literal ⟨c, false⟩

/-- Reading one construct takes one unit of fuel. -/
theorem run_construct {s s' : ParseState} {c : Char} {cs rest : List Char}
    (hs : s.verbose = false) (h : step s c cs = some (s', rest)) {n fuel : Nat}
    (hfuel : n + 1 ≤ fuel) : ∃ left ≥ n, run fuel s (c :: cs) = run left s' rest := by
  obtain ⟨more, rfl⟩ := Nat.exists_eq_add_of_le' hfuel
  refine ⟨more + n, Nat.le_add_left n more, ?_⟩
  show run (more + n + 1) s (c :: cs) = run (more + n) s' rest
  simp [run, hs, skip, h]

theorem step_literal {s : ParseState} {c : Char} (hc : isMeta c = false) (cs : List Char) :
    step s c cs = some (s.push (.literal ⟨c, false⟩), cs) := by
  unfold step
  split
  all_goals first | rfl | exact absurd hc (by decide)

theorem step_quoted {s : ParseState} {c : Char} (hc : isMeta c = true) (cs : List Char) :
    step s '\\' (c :: cs) = some (s.push (.literal ⟨c, false⟩), cs) := by
  have hescape : escape s.verbose (c :: cs) = some (.literal ⟨c, false⟩, cs) := by
    have hescapable : isEscapable c = true := by rw [isEscapable, hc, Bool.true_or]
    unfold escape
    exact if_pos hescapable
  simp only [step, hescape, Option.map_some]
  rfl

theorem skipReluctant_of_head?_ne {cs : List Char} (h : cs.head? ≠ some '?') :
    skipReluctant cs = cs := by
  unfold skipReluctant
  split
  · exact absurd rfl h
  · rfl

/-- Reading the pattern of one character takes no more fuel than the pattern has characters. -/
theorem run_partChars {s : ParseState} (hs : s.verbose = false) (c : Char) {rest : List Char}
    (hrest : rest.head? ≠ some '?') {n fuel : Nat} (hfuel : n + (partChars c).length ≤ fuel) :
    ∃ left ≥ n, run fuel s (partChars c ++ rest) = run left (s.push (item c)) rest := by
  rw [partChars] at hfuel ⊢
  rw [item]
  by_cases hstar : c = '*'
  · simp only [if_pos hstar] at hfuel ⊢
    have hdot : step s '.' ('*' :: rest) = some (s.push .dot, '*' :: rest) := rfl
    have hrep : step (s.push .dot) '*' rest =
        some (s.push (.repetition .dot 0 none), skipReluctant rest) := rfl
    -- No question mark follows, which would make the repetition reluctant.
    rw [skipReluctant_of_head?_ne hrest] at hrep
    obtain ⟨between, hbetween, hfirst⟩ := run_construct hs hdot hfuel
    obtain ⟨left, hleft, hsecond⟩ := run_construct (s := s.push .dot) hs hrep hbetween
    exact ⟨left, hleft, hfirst.trans hsecond⟩
  · simp only [if_neg hstar] at hfuel ⊢
    by_cases hquestion : c = '?'
    · simp only [if_pos hquestion] at hfuel ⊢
      exact run_construct hs rfl hfuel
    · simp only [if_neg hquestion] at hfuel ⊢
      rcases quoteChar_cases c with ⟨hc, h⟩ | ⟨hc, h⟩
      · rw [h] at hfuel ⊢
        exact run_construct hs (step_quoted hc rest) (Nat.le_of_succ_le hfuel)
      · rw [h] at hfuel ⊢
        exact run_construct hs (step_literal hc rest) hfuel

theorem head?_partChars_ne (c : Char) (rest : List Char) :
    (partChars c ++ rest).head? ≠ some '?' := by
  rw [partChars]
  by_cases hstar : c = '*'
  · simp [hstar]
  · by_cases hquestion : c = '?'
    · simp [hquestion]
    · rw [if_neg hstar, if_neg hquestion]
      rcases quoteChar_cases c with ⟨-, h⟩ | ⟨-, h⟩
      · simp [h]
      · simpa [h] using hquestion

/-- **A wildcard is read as one item for each character**, and the anchor after them. -/
theorem run_flatMap_partChars (w : List Char) {s : ParseState} (hs : s.verbose = false)
    {fuel : Nat} (hfuel : 2 + (w.flatMap partChars).length ≤ fuel) :
    run fuel s (w.flatMap partChars ++ ['$']) =
      some { s with items := .assertion .endLine :: ((w.map item).reverse ++ s.items) } := by
  induction w generalizing s fuel with
  | nil =>
    have hend : step s '$' [] = some (s.push (.assertion .endLine), []) := rfl
    obtain ⟨left, hleft, h⟩ := run_construct hs hend (n := 1) hfuel
    obtain ⟨left, rfl⟩ := Nat.exists_eq_add_of_le' hleft
    rw [List.flatMap_nil, List.nil_append, h]
    simp [run, skip, hs, ParseState.push]
  | cons c w ih =>
    have hrest : (w.flatMap partChars ++ ['$']).head? ≠ some '?' := by
      cases w with
      | nil => decide
      | cons d w =>
        rw [List.flatMap_cons, List.append_assoc]
        exact head?_partChars_ne d _
    rw [List.flatMap_cons, List.length_append] at hfuel
    have hcount : 2 + (w.flatMap partChars).length + (partChars c).length ≤ fuel := by omega
    obtain ⟨left, hleft, h⟩ := run_partChars hs c hrest hcount
    rw [List.flatMap_cons, List.append_assoc, h, ih (s := s.push (item c)) hs hleft]
    simp [ParseState.push]

/-- What a wildcard is read as: an item for each character between two anchors. -/
def items (w : List Char) : List Ast :=
  .assertion .startLine :: (w.map item ++ [.assertion .endLine])

theorem maxDepth_le {n : Nat} {as : List Ast} (h : ∀ a ∈ as, a.depth ≤ n) :
    Ast.maxDepth as ≤ n := by
  induction as with
  | nil => exact Nat.zero_le n
  | cons a as ih =>
    rw [Ast.maxDepth]
    exact Nat.max_le.mpr ⟨h a List.mem_cons_self, ih fun b hb => h b (List.mem_cons_of_mem a hb)⟩

theorem depth_item_le (c : Char) : (item c).depth ≤ 1 := by
  rw [item]
  by_cases hstar : c = '*'
  · simp [hstar, Ast.depth]
  · by_cases hquestion : c = '?'
    · simp [hquestion, Ast.depth]
    · simp [hstar, hquestion, Ast.depth]

theorem depth_items_le (w : List Char) : (Ast.concat (items w)).depth ≤ depthLimit := by
  have hitems : ∀ a ∈ items w, a.depth ≤ 1 := by
    intro a ha
    simp only [items, List.mem_cons, List.mem_append, List.mem_map, List.not_mem_nil,
      or_false] at ha
    rcases ha with rfl | ⟨c, -, rfl⟩ | rfl
    · simp [Ast.depth]
    · exact depth_item_le c
    · simp [Ast.depth]
  have hle := maxDepth_le hitems
  rw [Ast.depth, depthLimit]
  omega

theorem parse?_patternChars (w : List Char) :
    parse? (patternChars w) = some (.concat (items w)) := by
  have hstart : step {} '^' (w.flatMap partChars ++ ['$']) =
      some (({} : ParseState).push (.assertion .startLine), w.flatMap partChars ++ ['$']) := rfl
  have hlength : 2 + (w.flatMap partChars).length + 1 ≤ (patternChars w).length + 1 := by
    rw [patternChars_eq, List.length_cons, List.length_append, List.length_singleton]
    omega
  obtain ⟨left, hleft, hfirst⟩ := run_construct rfl hstart hlength
  have hbody : Ast.ofItems (items w) = .concat (items w) := by
    cases w <;> rfl
  have hreverse :
      (Ast.assertion .endLine :: ((w.map item).reverse ++ [.assertion .startLine])).reverse =
        items w := by
    simp [items]
  rw [parse?, patternChars_eq]
  rw [patternChars_eq] at hfirst
  rw [hfirst, run_flatMap_partChars w rfl hleft]
  simp only [Option.bind_eq_bind, Option.bind_some, ParseState.body, ParseState.push, hreverse,
    hbody, List.isEmpty_nil, if_true, depth_items_le, and_self]

/-! ### The meaning of the pattern -/

open Unicode (CharClass)

/-- The characters that a dot stands for. -/
def anyChar : CharClass := .compl (.single '\n')

/-- The characters that a character stands for which is neither a star nor a question mark. -/
def sameChar (ignoreCase : Bool) (c : Char) : CharClass :=
  Switches.fold { ignoreCase } (.single c)

/-- What a character of a wildcard means. -/
def partExpr (ignoreCase : Bool) (c : Char) : Expr :=
  if c = '*' then .rep (.chars anyChar) 0 none
  else if c = '?' then .chars anyChar
  else .chars (sameChar ignoreCase c)

/-- What a wildcard means. -/
def expr (ignoreCase : Bool) (w : List Char) : Expr :=
  .seqs (.look .textStart :: (w.map (partExpr ignoreCase) ++ [.look .textEnd]))

theorem exprs?_of_forall₂ {s : Switches} {as : List Ast} {es : List Expr}
    (h : List.Forall₂ (fun a e => a.expr? s = some (e, s)) as es) :
    Ast.exprs? s as = some (es, s) := by
  induction h with
  | nil => rfl
  | cons ha _ ih => simp [Ast.exprs?, ha, ih]

theorem expr?_item (ignoreCase : Bool) (c : Char) :
    (item c).expr? { ignoreCase } = some (partExpr ignoreCase c, { ignoreCase }) := by
  rw [item, partExpr]
  by_cases hstar : c = '*'
  · simp only [if_pos hstar]
    rfl
  · simp only [if_neg hstar]
    by_cases hquestion : c = '?'
    · simp only [if_pos hquestion]
      rfl
    · simp only [if_neg hquestion]
      rfl

theorem exprOf?_patternChars (ignoreCase : Bool) (w : List Char) :
    exprOf? ignoreCase (patternChars w) = some (expr ignoreCase w) := by
  have hparts : List.Forall₂
      (fun a e => a.expr? { ignoreCase } = some (e, { ignoreCase })) (w.map item)
      (w.map (partExpr ignoreCase)) := by
    rw [List.forall₂_map_left_iff, List.forall₂_map_right_iff, List.forall₂_same]
    exact fun c _ => expr?_item ignoreCase c
  have hitems := exprs?_of_forall₂ (.cons (a := .assertion .startLine) (b := .look .textStart) rfl
    (List.rel_append hparts (.cons (a := .assertion .endLine) (b := .look .textEnd) rfl .nil)))
  have hconcat : (Ast.concat (items w)).expr? { ignoreCase } =
      some (expr ignoreCase w, { ignoreCase }) := by
    rw [Ast.expr?, items, hitems]
    rfl
  rw [exprOf?, parse?_patternChars, Option.bind_eq_bind, Option.bind_some, hconcat]
  rfl

/-- **A wildcard is refused only if there is no room for it.** -/
theorem ofFilter_wildcard [Capacity] (p : String) (ignoreCase : Bool) :
    Matcher.ofFilter { matchType := .wildcard, pattern := p, ignoreCase } =
      if Capacity.admits ignoreCase (patternChars p.toList) then
        .ok (.compiled ⟨expr ignoreCase p.toList⟩)
      else .error (.invalidPattern p) := by
  show Matcher.compile p ignoreCase (patternChars p.toList) = _
  rw [Matcher.compile, compile?, exprOf?_patternChars, Option.bind_eq_bind, Option.bind_some]
  by_cases hadmits : Capacity.admits ignoreCase (patternChars p.toList) = true
  · rw [if_pos hadmits, if_pos hadmits]
  · rw [if_neg hadmits, if_neg hadmits]

theorem ofFilter_wildcard_eq_ok_iff [Capacity] {p : String} {ignoreCase : Bool} {m : Matcher} :
    Matcher.ofFilter { matchType := .wildcard, pattern := p, ignoreCase } = .ok m ↔
      Capacity.admits ignoreCase (patternChars p.toList) = true ∧
        m = .compiled ⟨expr ignoreCase p.toList⟩ := by
  rw [ofFilter_wildcard]
  split_ifs with hadmits
  · rw [Except.ok.injEq, eq_comm]
    exact (and_iff_right hadmits).symm
  · exact iff_of_false nofun fun h => hadmits h.1

end VariantStrip.Wildcard
