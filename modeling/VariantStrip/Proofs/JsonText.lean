/-
What is written as JSON is read back.

A tree of values is written in many lines, and `Json.ofTree` is the value that is read from them.
Reader and writer meet in the same cases:

* `Json.stringBody_quote` — a string is read piece by piece, as its characters are escaped one by
  one (`Json.stringUnits_escapeChar`),
* `Json.skipNumber_toDigits` — a number is read up to the first character that cannot belong to it,
* `Json.reads` — a tree is read in whole, with whatever follows it left over, unless that goes on
  with a number.  Only ends of lines, commas and brackets follow a tree.

The main result is `Json.parse?_write`.  As documents, the values that are read answer what readers
of data ask for; `Json.knownFields_ofFields` finds the fields of a record.
-/
import VariantStrip.Json.Document
import VariantStrip.Json.Reader
import VariantStrip.Json.Writer
import VariantStrip.Proofs.ReadBack

namespace VariantStrip.Json

open Text

mutual

/-- The value that a tree is read as.  Words are strings, and all numbers look alike. -/
def ofTree : Tree → Json
  | .nothing => .null
  | .bool b => .bool b
  | .nat _ => .number
  | .text s => .string (some s)
  | .word s => .string (some s)
  | .list vs => .array (ofTrees vs)
  | .record fs => .object (ofFields fs)

/-- The values of some items. -/
def ofTrees : List Tree → List Json
  | [] => []
  | v :: vs => ofTree v :: ofTrees vs

/-- The values of some fields. -/
def ofFields : List (String × Tree) → List (Option String × Json)
  | [] => []
  | (key, v) :: fs => (some key, ofTree v) :: ofFields fs

end

theorem ofTrees_eq (vs : List Tree) : ofTrees vs = vs.map ofTree := by
  induction vs with
  | nil => rfl
  | cons v vs ih => rw [ofTrees, ih, List.map_cons]

/-! ### Strings -/

theorem hexValue?_hexDigit : ∀ n < 16, hexValue? (hexDigit n) = some n := by decide

/-- Two hexadecimal digits spell a control character. -/
theorem hex4?_control {c : Char} (hc : c.toNat < 0x20) (cs : List Char) :
    hex4? ('0' :: '0' :: hexDigit (c.toNat / 16) :: hexDigit (c.toNat % 16) :: cs) =
      some (c.toNat, cs) := by
  have hhigh := hexValue?_hexDigit (c.toNat / 16) (by omega)
  have hlow := hexValue?_hexDigit (c.toNat % 16) (by omega)
  have hzero : hexValue? '0' = some 0 := by decide
  have hnumber : ((0 * 16 + 0) * 16 + c.toNat / 16) * 16 + c.toNat % 16 = c.toNat := by omega
  simp only [hex4?, hzero, hhigh, hlow, Option.bind_eq_bind, Option.bind_some, hnumber]
  rfl

/-- The unit of a control character joins to it: it is no half of a pair. -/
theorem joinUnits_control {c : Char} (hc : c.toNat < 0x20) (us : List Unit16) :
    joinUnits (.unit c.toNat :: us) = (joinUnits us).map (c :: ·) := by
  have hhigh : isHighSurrogate c.toNat = false := by
    rw [isHighSurrogate, decide_eq_false (by omega), Bool.false_and]
  have hlow : isLowSurrogate c.toNat = false := by
    rw [isLowSurrogate, decide_eq_false (by omega), Bool.false_and]
  rw [joinUnits.eq_def]
  simp only [hhigh, hlow, Char.ofNat_toNat, Bool.false_eq_true, if_false]

/-- The piece of a string joins to a character. -/
def Unit16.Spells (u : Unit16) (c : Char) : Prop :=
  ∀ us, joinUnits (u :: us) = (joinUnits us).map (c :: ·)

/-- A character is escaped, and the escape is read as a piece that joins to it, or it stands for
itself. -/
theorem escapeChar_cases (c : Char) :
    (∃ name cs u, escapeChar c = '\\' :: name :: cs ∧
      (∀ rest, escape? (name :: (cs ++ rest)) = some (u, rest)) ∧ u.Spells c) ∨
    (escapeChar c = [c] ∧ c ≠ '"' ∧ c ≠ '\\' ∧ ¬ c.toNat < 0x20) := by
  by_cases hnamed : c ∈ ['"', '\\', '\x08', '\x0c', '\n', '\r', '\t']
  · left
    simp only [List.mem_cons, List.not_mem_nil, or_false] at hnamed
    rcases hnamed with rfl | rfl | rfl | rfl | rfl | rfl | rfl <;>
      exact ⟨_, [], _, rfl, fun _ => rfl, fun _ => rfl⟩
  · simp only [List.mem_cons, List.not_mem_nil, or_false, not_or] at hnamed
    obtain ⟨hquote, hslash, hback, hfeed, hline, hreturn, htab⟩ := hnamed
    rw [escapeChar, if_neg hquote, if_neg hslash, if_neg hback, if_neg hfeed, if_neg hline,
      if_neg hreturn, if_neg htab]
    by_cases hcontrol : c.toNat < 0x20
    · refine .inl ⟨_, _, .unit c.toNat, if_pos hcontrol, fun rest => ?_,
        joinUnits_control hcontrol⟩
      simp only [List.cons_append, List.nil_append, escape?, hex4?_control hcontrol,
        Option.map_some]
    · exact .inr ⟨if_neg hcontrol, hquote, hslash, hcontrol⟩

/-- **One character.**  It is read as one piece, and reading goes on after it. -/
theorem stringUnits_escapeChar (c : Char) :
    ∃ u : Unit16, u.Spells c ∧ ∀ fuel cs, stringUnits (fuel + 1) (escapeChar c ++ cs) =
      (stringUnits fuel cs).map fun r => (u :: r.1, r.2) := by
  rcases escapeChar_cases c with ⟨name, cs', u, hescape, hread, hspells⟩ |
    ⟨hself, hquote, hslash, hcontrol⟩
  · refine ⟨u, hspells, fun fuel cs => ?_⟩
    rw [hescape, List.cons_append, List.cons_append, stringUnits, if_neg (by decide), if_pos rfl,
      hread]
    simp only [Option.bind_eq_bind, Option.bind_some]
    cases stringUnits fuel cs <;> rfl
  · refine ⟨.char c, fun us => rfl, fun fuel cs => ?_⟩
    rw [hself, List.singleton_append, stringUnits, if_neg hquote, if_neg hslash, if_neg hcontrol]
    cases stringUnits fuel cs <;> rfl

/-- Characters are read up to the quote that follows them. -/
theorem stringUnits_flatMap_escapeChar (cs rest : List Char) {fuel : Nat}
    (hfuel : cs.length < fuel) :
    ∃ us, stringUnits fuel (cs.flatMap escapeChar ++ '"' :: rest) = some (us, rest) ∧
      joinUnits us = some cs := by
  induction cs generalizing fuel with
  | nil =>
    obtain ⟨fuel, rfl⟩ := Nat.exists_eq_add_of_lt hfuel
    exact ⟨[], rfl, rfl⟩
  | cons c cs ih =>
    obtain ⟨fuel, rfl⟩ := Nat.exists_eq_succ_of_ne_zero (Nat.ne_zero_of_lt hfuel)
    obtain ⟨us, hus, hjoin⟩ := ih (Nat.lt_of_succ_lt_succ hfuel)
    obtain ⟨u, hspells, hread⟩ := stringUnits_escapeChar c
    refine ⟨u :: us, ?_, ?_⟩
    · rw [List.flatMap_cons, List.append_assoc, hread, hus, Option.map_some]
    · rw [hspells, hjoin, Option.map_some]

theorem escapeChar_ne_nil (c : Char) : escapeChar c ≠ [] := by
  rcases escapeChar_cases c with ⟨name, cs, u, hescape, -⟩ | ⟨hself, -⟩
  · rw [hescape]
    exact List.cons_ne_nil _ _
  · rw [hself]
    exact List.cons_ne_nil _ _

/-- **Strings.**  A quoted text is read in whole. -/
theorem stringBody_quote (s : String) (rest : List Char) :
    stringBody (s.toList.flatMap escapeChar ++ '"' :: rest) = some (some s, rest) := by
  have hlength := length_le_length_flatMap escapeChar_ne_nil s.toList
  have hfuel : s.toList.length < (s.toList.flatMap escapeChar ++ '"' :: rest).length + 1 := by
    rw [List.length_append]
    omega
  obtain ⟨us, hus, hjoin⟩ := stringUnits_flatMap_escapeChar s.toList rest hfuel
  rw [stringBody, hus]
  simp only [Option.bind_eq_bind, Option.bind_some, hjoin, Option.map_some, String.ofList_toList]
  rfl

/-! ### Numbers -/

/-- No number goes on with the text. -/
def EndsNumber (cs : List Char) : Prop :=
  ∀ c ∈ cs.head?, c.isDigit = false ∧ c ≠ '.' ∧ c ≠ 'e' ∧ c ≠ 'E'

theorem dropWhile_isDigit_append {ds rest : List Char} (hds : ∀ c ∈ ds, c.isDigit = true)
    (hrest : EndsNumber rest) : (ds ++ rest).dropWhile Char.isDigit = rest := by
  induction ds with
  | nil =>
    cases rest with
    | nil => rfl
    | cons c rest => simp [(hrest c rfl).1]
  | cons c ds ih =>
    rw [List.forall_mem_cons] at hds
    rw [List.cons_append, List.dropWhile_cons_of_pos hds.1, ih hds.2]

theorem exists_toDigits_eq_cons (n : Nat) :
    ∃ c cs, Nat.toDigits 10 n = c :: cs ∧ c.isDigit = true ∧ ∀ d ∈ cs, d.isDigit = true := by
  have hdigits : ∀ c ∈ Nat.toDigits 10 n, c.isDigit = true := fun c =>
    Nat.isDigit_of_mem_toDigits (by decide) (by decide)
  obtain ⟨c, cs, hcs⟩ := List.exists_cons_of_ne_nil (Nat.toDigits_ne_nil (n := n) (b := 10))
  rw [hcs, List.forall_mem_cons] at hdigits
  exact ⟨c, cs, hcs, hdigits⟩

theorem digitChar_ne_zero : ∀ n < 10, 0 < n → n.digitChar ≠ '0' := by decide

/-- A number that is not zero does not start with a zero. -/
theorem head?_toDigits_ne_zero {n : Nat} (hn : 0 < n) : (Nat.toDigits 10 n).head? ≠ some '0' := by
  induction n using Nat.strongRecOn with
  | _ n ih =>
    by_cases hsmall : n < 10
    · rw [Nat.toDigits_of_lt_base hsmall]
      exact fun hzero => digitChar_ne_zero n hsmall hn (Option.some.inj hzero)
    · have hlarge : 10 ≤ n := Nat.le_of_not_lt hsmall
      rw [Nat.toDigits_of_base_le (by decide) hlarge,
        List.head?_append_of_ne_nil _ Nat.toDigits_ne_nil]
      exact ih (n / 10) (Nat.div_lt_self hn (by decide)) (Nat.div_pos hlarge (by decide))

/-- The whole part of a number is read up to its end. -/
theorem wholePart_toDigits (n : Nat) {rest : List Char} (hrest : EndsNumber rest) :
    wholePart (Nat.toDigits 10 n ++ rest) = some rest := by
  rcases Nat.eq_zero_or_pos n with rfl | hn
  · have hnext : rest.head?.any Char.isDigit = false := by
      cases rest with
      | nil => rfl
      | cons c rest => exact (hrest c rfl).1
    rw [Nat.toDigits_zero, List.singleton_append, wholePart, hnext]
    rfl
  · have hzero := head?_toDigits_ne_zero hn
    obtain ⟨c, cs, hcs, hdigit, hdigits⟩ := exists_toDigits_eq_cons n
    rw [hcs] at hzero ⊢
    rw [List.cons_append, wholePart.eq_2, digits1, if_pos hdigit,
      dropWhile_isDigit_append hdigits hrest]
    rintro cs' ⟨⟩
    exact hzero rfl

/-- **Numbers.**  A number is read up to its end. -/
theorem skipNumber_toDigits (n : Nat) {rest : List Char} (hrest : EndsNumber rest) :
    skipNumber (Nat.toDigits 10 n ++ rest) = some rest := by
  have hsign (cs : List Char) : Nat.toDigits 10 n ++ rest ≠ '-' :: cs := by
    obtain ⟨c, ds, hds, hdigit, -⟩ := exists_toDigits_eq_cons n
    rw [hds, List.cons_append]
    rintro ⟨⟩
    cases hdigit
  have hfraction : fraction rest = some rest := by
    cases rest with
    | nil => rfl
    | cons c rest =>
      rw [fraction.eq_2]
      rintro cs ⟨⟩
      exact (hrest '.' rfl).2.1 rfl
  have hexponent : exponent rest = some rest := by
    cases rest with
    | nil => rfl
    | cons c rest =>
      obtain ⟨-, -, he, hE⟩ := hrest c rfl
      rw [exponent.eq_def]
      exact if_neg (not_or.mpr ⟨he, hE⟩)
  rw [skipNumber, wholePart_toDigits n hrest]
  · simp only [Option.bind_eq_bind, Option.bind_some, hfraction, hexponent]
  · exact hsign

/-! ### Blank characters -/

@[simp] theorem skipSpace_replicate (n : Nat) (cs : List Char) :
    skipSpace (List.replicate n ' ' ++ cs) = skipSpace cs := by
  induction n with
  | zero => rfl
  | succ n ih => exact ih

@[simp] theorem skipSpace_newLine (level : Nat) (cs : List Char) :
    skipSpace (newLine level ++ cs) = skipSpace cs :=
  skipSpace_replicate (2 * level) cs

theorem skipSpace_cons_of_not {c : Char} (hc : isSpace c = false) (cs : List Char) :
    skipSpace (c :: cs) = c :: cs := by
  rw [skipSpace, hc]
  rfl

section

variable {cs cs' : List Char} (h : skipSpace cs = skipSpace cs') (fuel : Nat)

include h

/-- Blank characters in front of a value do not count. -/
theorem value_congr : value fuel cs = value fuel cs' := by
  cases fuel with
  | zero => rw [value, value]
  | succ fuel =>
    rw [value.eq_def, value.eq_def]
    dsimp only
    rw [h]

theorem items_congr : items fuel cs = items fuel cs' := by
  cases fuel with
  | zero => rw [items, items]
  | succ fuel => rw [items.eq_2, items.eq_2, value_congr h]

theorem fields_congr : fields fuel cs = fields fuel cs' := by
  cases fuel with
  | zero => rw [fields, fields]
  | succ fuel =>
    rw [fields.eq_def, fields.eq_def]
    dsimp only
    rw [h]

end

/-! ### Values -/

theorem value_string (fuel : Nat) (rest : List Char) :
    value (fuel + 1) ('"' :: rest) = (stringBody rest).map fun r => (.string r.1, r.2) := rfl

theorem value_list (fuel : Nat) (rest : List Char) :
    value (fuel + 1) ('[' :: rest) =
      match skipSpace rest with
      | ']' :: rest => some (.array [], rest)
      | rest => (items fuel rest).map fun r => (.array r.1, r.2) := rfl

/-- An array whose first item starts with some character is not empty. -/
theorem value_cons {c : Char} (hspace : isSpace c = false) (hend : c ≠ ']') (fuel level : Nat)
    (cs : List Char) :
    value (fuel + 1) ('[' :: (newLine level ++ c :: cs)) =
      (items fuel (c :: cs)).map fun r => (.array r.1, r.2) := by
  rw [value_list, skipSpace_newLine, skipSpace_cons_of_not hspace]
  split
  · next h => exact absurd (List.cons.inj h).1 hend
  · rfl

theorem value_object (fuel : Nat) (rest : List Char) :
    value (fuel + 1) ('\x7b' :: rest) =
      match skipSpace rest with
      | '\x7d' :: rest => some (.object [], rest)
      | rest => (fields fuel rest).map fun r => (.object r.1, r.2) := rfl

/-- An object whose first field has a name is not empty. -/
theorem value_quoted (fuel level : Nat) (cs : List Char) :
    value (fuel + 1) ('\x7b' :: (newLine level ++ '"' :: cs)) =
      (fields fuel ('"' :: cs)).map fun r => (.object r.1, r.2) := by
  rw [value_object, skipSpace_newLine]
  rfl

theorem isSpace_of_isDigit {c : Char} (hc : c.isDigit = true) : isSpace c = false := by
  rw [Bool.eq_false_iff]
  intro hspace
  simp only [isSpace, Bool.or_eq_true, beq_iff_eq] at hspace
  rcases hspace with ((rfl | rfl) | rfl) | rfl <;> cases hc

theorem value_digit {c : Char} (hc : c.isDigit = true) (fuel : Nat) (rest : List Char) :
    value (fuel + 1) (c :: rest) = (skipNumber (c :: rest)).map fun rest => (.number, rest) := by
  rw [value.eq_def]
  dsimp only
  rw [skipSpace_cons_of_not (isSpace_of_isDigit hc)]
  -- The characters that other values start with are no digits.
  split
  case h_1 h => cases h
  case h_8 => rfl
  all_goals
    next h =>
      cases h
      cases hc

theorem chars_nat (level n : Nat) : chars level (.nat n) = Nat.toDigits 10 n := by
  rw [chars]
  exact Nat.toList_repr

/-- A tree starts with a character that is neither blank nor the end of a list. -/
theorem exists_chars_eq_cons (level : Nat) (t : Tree) :
    ∃ c cs, chars level t = c :: cs ∧ isSpace c = false ∧ c ≠ ']' := by
  cases t with
  | nat n =>
    obtain ⟨c, cs, hcs, hdigit, -⟩ := exists_toDigits_eq_cons n
    refine ⟨c, cs, by rw [chars_nat, hcs], isSpace_of_isDigit hdigit, ?_⟩
    rintro rfl
    cases hdigit
  | bool b => cases b <;> exact ⟨_, _, rfl, rfl, by decide⟩
  | list vs => cases vs <;> exact ⟨_, _, by rw [chars], rfl, by decide⟩
  | record fs => cases fs <;> exact ⟨_, _, by rw [chars], rfl, by decide⟩
  | nothing | text s | word s => exact ⟨_, _, rfl, rfl, by decide⟩

theorem value_quote (s : String) (fuel : Nat) (rest : List Char) :
    value (fuel + 1) (quote s ++ rest) = some (.string (some s), rest) := by
  rw [quote, List.cons_append, List.append_assoc, List.singleton_append, value_string,
    stringBody_quote, Option.map_some]

theorem fields_string (fuel : Nat) (rest : List Char) :
    fields (fuel + 1) ('"' :: rest) = (stringBody rest).bind fun k =>
      match skipSpace k.2 with
      | ':' :: rest => (value fuel rest).bind fun r =>
        match skipSpace r.2 with
        | ',' :: rest => (fields fuel rest).bind fun s => some ((k.1, r.1) :: s.1, s.2)
        | '\x7d' :: rest => some ([(k.1, r.1)], rest)
        | _ => none
      | _ => none := rfl

/-- The fields of a record start with a name and a value. -/
theorem fields_quote (key : String) (fuel : Nat) (cs : List Char) :
    fields (fuel + 1) (quote key ++ ':' :: ' ' :: cs) = (value fuel cs).bind fun r =>
      match skipSpace r.2 with
      | ',' :: rest => (fields fuel rest).bind fun s => some ((some key, r.1) :: s.1, s.2)
      | '\x7d' :: rest => some ([(some key, r.1)], rest)
      | _ => none := by
  have hspace : skipSpace (' ' :: cs) = skipSpace cs := rfl
  rw [quote, List.cons_append, List.append_assoc, List.singleton_append, fields_string,
    stringBody_quote, Option.bind_some, skipSpace_cons_of_not (by decide),
    ← value_congr hspace fuel]
  rfl

/-- A tree is read in whole, with as much fuel as it has characters. -/
def Reads (t : Tree) : Prop :=
  ∀ level fuel rest, (chars level t).length ≤ fuel → EndsNumber rest →
    value fuel (chars level t ++ rest) = some (ofTree t, rest)

/-- A tree has at least one character, so there is some fuel. -/
theorem reads_of_succ {t : Tree} (h : ∀ level fuel rest, (chars level t).length ≤ fuel + 1 →
    EndsNumber rest → value (fuel + 1) (chars level t ++ rest) = some (ofTree t, rest)) :
    Reads t := by
  intro level fuel rest hfuel hrest
  obtain ⟨c, cs, hcs, -⟩ := exists_chars_eq_cons level t
  cases fuel with
  | zero =>
    rw [hcs] at hfuel
    cases hfuel
  | succ fuel => exact h level fuel rest hfuel hrest

theorem reads_nat (n : Nat) : Reads (.nat n) := by
  refine reads_of_succ fun level fuel rest hfuel hrest => ?_
  obtain ⟨c, cs, hcs, hdigit, -⟩ := exists_toDigits_eq_cons n
  rw [chars_nat, hcs, List.cons_append, value_digit hdigit, ← List.cons_append, ← hcs,
    skipNumber_toDigits n hrest]
  rfl

/-- The end of a list or record ends a number, and so does a comma. -/
theorem endsNumber_itemChars (level level' : Nat) (vs : List Tree) (rest : List Char) :
    EndsNumber (itemChars level vs ++ (newLine level' ++ rest)) := by
  cases vs <;> rintro _ ⟨⟩ <;> decide

theorem endsNumber_fieldChars (level level' : Nat) (fs : List (String × Tree)) (rest : List Char) :
    EndsNumber (fieldChars level fs ++ (newLine level' ++ rest)) := by
  cases fs <;> rintro _ ⟨⟩ <;> decide

/-- **Lists.**  Items that are read one by one are read in a row. -/
theorem items_chars {v : Tree} {vs : List Tree} (hv : Reads v) (hvs : ∀ w ∈ vs, Reads w)
    (level fuel : Nat) (rest : List Char)
    (hfuel : (chars (level + 1) v).length + (itemChars level vs).length < fuel) :
    items fuel (chars (level + 1) v ++ (itemChars level vs ++ (newLine level ++ ']' :: rest))) =
      some (ofTree v :: ofTrees vs, rest) := by
  induction vs generalizing v fuel with
  | nil =>
    obtain ⟨fuel, rfl⟩ := Nat.exists_eq_succ_of_ne_zero (Nat.ne_zero_of_lt hfuel)
    have hfirst := hv (level + 1) fuel _ (by omega)
      (endsNumber_itemChars level level [] (']' :: rest))
    rw [items.eq_2, hfirst]
    simp only [Option.bind_eq_bind, Option.bind_some, itemChars, List.nil_append, skipSpace_newLine]
    rfl
  | cons w vs ih =>
    obtain ⟨fuel, rfl⟩ := Nat.exists_eq_succ_of_ne_zero (Nat.ne_zero_of_lt hfuel)
    rw [List.forall_mem_cons] at hvs
    have hlength : (itemChars level (w :: vs)).length =
        1 + (newLine (level + 1)).length + (chars (level + 1) w).length +
          (itemChars level vs).length := by
      simp only [itemChars, List.length_cons, List.length_append]
      omega
    have hfirst := hv (level + 1) fuel _ (by omega)
      (endsNumber_itemChars level level (w :: vs) (']' :: rest))
    have hrest := ih hvs.1 hvs.2 fuel (by omega)
    rw [items.eq_2, hfirst]
    simp only [Option.bind_eq_bind, Option.bind_some, itemChars, List.cons_append,
      List.append_assoc, skipSpace_cons_of_not (c := ',') (by decide)]
    rw [items_congr (skipSpace_newLine ..), hrest]
    rfl

/-- **Records.**  Fields whose values are read one by one are read in a row. -/
theorem fields_chars (key : String) {v : Tree} {fs : List (String × Tree)} (hv : Reads v)
    (hfs : ∀ f ∈ fs, Reads f.2) (level fuel : Nat) (rest : List Char)
    (hfuel : (chars (level + 1) v).length + (fieldChars level fs).length < fuel) :
    fields fuel (quote key ++ (':' :: ' ' :: (chars (level + 1) v ++
        (fieldChars level fs ++ (newLine level ++ '\x7d' :: rest))))) =
      some ((some key, ofTree v) :: ofFields fs, rest) := by
  induction fs generalizing key v fuel with
  | nil =>
    obtain ⟨fuel, rfl⟩ := Nat.exists_eq_succ_of_ne_zero (Nat.ne_zero_of_lt hfuel)
    have hfirst := hv (level + 1) fuel _ (by omega)
      (endsNumber_fieldChars level level [] ('\x7d' :: rest))
    rw [fields_quote, hfirst]
    simp only [Option.bind_some, fieldChars, List.nil_append, skipSpace_newLine]
    rfl
  | cons f fs ih =>
    obtain ⟨fuel, rfl⟩ := Nat.exists_eq_succ_of_ne_zero (Nat.ne_zero_of_lt hfuel)
    rw [List.forall_mem_cons] at hfs
    have hlength : (fieldChars level (f :: fs)).length =
        3 + (newLine (level + 1)).length + (quote f.1).length + (chars (level + 1) f.2).length +
          (fieldChars level fs).length := by
      simp only [fieldChars, List.length_cons, List.length_append]
      omega
    have hfirst := hv (level + 1) fuel _ (by omega)
      (endsNumber_fieldChars level level (f :: fs) ('\x7d' :: rest))
    have hrest := ih f.1 hfs.1 hfs.2 fuel (by omega)
    rw [fields_quote, hfirst]
    simp only [Option.bind_some, fieldChars, List.cons_append, List.append_assoc,
      skipSpace_cons_of_not (c := ',') (by decide)]
    rw [fields_congr (skipSpace_newLine ..), hrest]
    rfl

theorem reads_list {vs : List Tree} (hvs : ∀ v ∈ vs, Reads v) : Reads (.list vs) := by
  refine reads_of_succ fun level fuel rest hfuel hrest => ?_
  cases vs with
  | nil => rfl
  | cons v vs =>
    rw [List.forall_mem_cons] at hvs
    obtain ⟨c, cs, hcs, hspace, hend⟩ := exists_chars_eq_cons (level + 1) v
    have hitems := items_chars hvs.1 hvs.2 level fuel rest (by
      simp only [chars, List.length_cons, List.length_append] at hfuel
      omega)
    rw [hcs] at hitems
    rw [chars, hcs]
    simp only [List.append_assoc, List.cons_append, List.nil_append] at hitems ⊢
    rw [value_cons hspace hend, hitems]
    rfl

theorem reads_record {fs : List (String × Tree)} (hfs : ∀ f ∈ fs, Reads f.2) :
    Reads (.record fs) := by
  refine reads_of_succ fun level fuel rest hfuel hrest => ?_
  cases fs with
  | nil => rfl
  | cons f fs =>
    rw [List.forall_mem_cons] at hfs
    have hfields := fields_chars f.1 hfs.1 hfs.2 level fuel rest (by
      simp only [chars, List.length_cons, List.length_append] at hfuel
      omega)
    rw [quote] at hfields
    rw [chars, quote]
    simp only [List.append_assoc, List.cons_append, List.nil_append] at hfields ⊢
    rw [value_quoted, hfields]
    rfl

/-- **Values.**  Every tree is read in whole. -/
theorem reads : (t : Tree) → Reads t
  | .nothing => reads_of_succ fun _ _ _ _ _ => rfl
  | .bool true => reads_of_succ fun _ _ _ _ _ => rfl
  | .bool false => reads_of_succ fun _ _ _ _ _ => rfl
  | .nat n => reads_nat n
  | .text s => reads_of_succ fun _ fuel rest _ _ => value_quote s fuel rest
  | .word s => reads_of_succ fun _ fuel rest _ _ => value_quote s fuel rest
  | .list vs => reads_list fun v _ => reads v
  | .record fs => reads_record fun f hf =>
    have := Tree.sizeOf_lt_of_mem_fields hf
    reads f.2

/-- **What is written is read back.** -/
theorem parse?_write (t : Tree) : parse? (write t).toList = some (ofTree t) := by
  have hread := reads t 0 (2 * (chars 0 t).length + 2) [] (by omega) nofun
  rw [List.append_nil] at hread
  rw [write, String.toList_ofList, parse?, hread]
  rfl

/-! ### Documents -/

/-- Fields that a record knows are kept, if each of them stands once. -/
theorem knownFields_ofFields {known : List String} {fs : List (String × Tree)}
    (hknown : ∀ f ∈ fs, f.1 ∈ known) (hnodup : (fs.map (·.1)).Nodup) :
    knownFields known (ofFields fs) = some (fs.map fun f => (f.1, ofTree f.2)) := by
  induction fs with
  | nil => rfl
  | cons f fs ih =>
    rw [List.forall_mem_cons] at hknown
    rw [List.map_cons, List.nodup_cons] at hnodup
    have hlookup := lookup_map_eq_none hnodup.1 ofTree
    simp only [ofFields, knownFields, ih hknown.2 hnodup.2, Option.bind_eq_bind, Option.bind_some,
      List.contains_iff_mem.mpr hknown.1, if_true, hlookup, Option.isSome_none,
      Bool.false_eq_true, if_false, List.map_cons]

instance : Document.Presents Json where
  ofTree _ := ofTree
  bool?_ofTree _ _ := rfl
  text?_ofTree _ _ := rfl
  choice?_ofTree _ _ := rfl
  list?_ofTree _ ts := congrArg some (ofTrees_eq ts)
  looseList?_ofTree _ ts := congrArg some (ofTrees_eq ts)
  record?_of_known _ _ _ _ hknown hnodup := knownFields_ofFields hknown hnodup

end VariantStrip.Json
