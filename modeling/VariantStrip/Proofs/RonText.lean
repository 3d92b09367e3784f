/-
What is written as RON is read back.

A tree of values is written in many lines, and `Ron.ofTree` is the value that is read from them.
Texts may hold any characters.  Words and the names of fields stand without quotes, so they are
read back only if they are identifiers, and words only if they are not read as something else
(`Ron.Readable`).  Numbers are left out: those of more than 64 bits cannot be read.

* `Ron.value_quote` — a string is read character by character, as it has been escaped
  (`Ron.stringChars_escapeChar`); a code point that is spelled in hexadecimal digits is read up to
  the brace after it (`Ron.bracedHex_hexDigits`),
* `Ron.identifier?_append` — an identifier is read up to its end, and stands alone
  (`Ron.value_identifier`),
* `Ron.reads` — a tree is read in whole, with whatever follows it left over, if that is nothing or
  starts with a comma.

The main result is `Ron.parse?_write`.
-/
import Mathlib.Algebra.Group.Nat.Defs
import VariantStrip.Proofs.JsonText
import VariantStrip.Ron.Document
import VariantStrip.Ron.Reader
import VariantStrip.Ron.Writer

namespace VariantStrip.Ron

open Text

mutual

/-- The value that a tree is read as.  What is missing is a word, and a record without fields is
two brackets. -/
def ofTree : Tree → Ron
  | .nothing => .word "None"
  | .bool b => .bool b
  | .nat _ => .number
  | .text s => .string s
  | .word s => .word s
  | .list vs => .list (ofTrees vs)
  | .record [] => .unit
  | .record ((key, v) :: fs) => .record none ((key, ofTree v) :: ofFields fs)

/-- The values of some items. -/
def ofTrees : List Tree → List Ron
  | [] => []
  | v :: vs => ofTree v :: ofTrees vs

/-- The values of some fields. -/
def ofFields : List (String × Tree) → List (String × Ron)
  | [] => []
  | (key, v) :: fs => (key, ofTree v) :: ofFields fs

end

theorem ofTrees_eq (vs : List Tree) : ofTrees vs = vs.map ofTree := by
  induction vs with
  | nil => rfl
  | cons v vs ih => rw [ofTrees, ih, List.map_cons]

/-! ### Strings -/

theorem hexDigits_of_lt {n : Nat} (hn : n < 16) (fuel : Nat) (cs : List Char) :
    hexDigits (fuel + 1) n cs = Json.hexDigit n :: cs := by
  have hmod : n % 16 = n := Nat.mod_eq_of_lt hn
  rw [hexDigits, if_pos hn, hmod]
  rfl

theorem hexDigits_of_le {n : Nat} (hn : 16 ≤ n) (fuel : Nat) (cs : List Char) :
    hexDigits (fuel + 1) n cs = hexDigits fuel (n / 16) (Json.hexDigit (n % 16) :: cs) := by
  rw [hexDigits, if_neg (Nat.not_lt.mpr hn)]
  rfl

theorem hexDigits_append (fuel n : Nat) (cs rest : List Char) :
    hexDigits fuel n cs ++ rest = hexDigits fuel n (cs ++ rest) := by
  induction fuel generalizing n cs with
  | zero => rfl
  | succ fuel ih =>
    rcases Nat.lt_or_ge n 16 with hn | hn
    · rw [hexDigits_of_lt hn, hexDigits_of_lt hn, List.cons_append]
    · rw [hexDigits_of_le hn, hexDigits_of_le hn, ih, List.cons_append]

theorem hexDigit_ne_brace : ∀ n < 16, Json.hexDigit n ≠ '\x7d' := by decide

/-- There is a first digit. -/
theorem exists_hexDigits_eq_cons (fuel n : Nat) (cs : List Char) :
    ∃ c ds, hexDigits (fuel + 1) n cs = c :: ds ∧ c ≠ '\x7d' := by
  induction fuel generalizing n cs with
  | zero =>
    have hmod : n % 16 < 16 := Nat.mod_lt n (by decide)
    refine ⟨Json.hexDigit (n % 16), cs, ?_, hexDigit_ne_brace _ hmod⟩
    rw [hexDigits]
    exact ite_self _
  | succ fuel ih =>
    rcases Nat.lt_or_ge n 16 with hn | hn
    · exact ⟨_, _, hexDigits_of_lt hn _ cs, hexDigit_ne_brace n hn⟩
    · rw [hexDigits_of_le hn]
      exact ih (n / 16) _

theorem bracedHex_hexDigit {d : Nat} (hd : d < 16) (count acc : Nat) (cs : List Char) :
    bracedHex (count + 1) acc (Json.hexDigit d :: cs) = bracedHex count (acc * 16 + d) cs := by
  rw [bracedHex.eq_4 _ _ _ _ (hexDigit_ne_brace d hd), Json.hexValue?_hexDigit d hd]
  rfl

/-- The digits of a number are read one by one. -/
theorem bracedHex_hexDigits {fuel n : Nat} (hn : n < 16 ^ (fuel + 1)) :
    ∃ k ≤ fuel, ∀ count acc cs,
      bracedHex (count + k + 1) acc (hexDigits (fuel + 1) n cs) =
        bracedHex count (acc * 16 ^ (k + 1) + n) cs := by
  induction fuel generalizing n with
  | zero =>
    refine ⟨0, Nat.le_refl 0, fun count acc cs => ?_⟩
    rw [hexDigits_of_lt hn, Nat.add_zero, bracedHex_hexDigit hn, Nat.zero_add, Nat.pow_one]
  | succ fuel ih =>
    rcases Nat.lt_or_ge n 16 with hsmall | hlarge
    · refine ⟨0, Nat.zero_le _, fun count acc cs => ?_⟩
      rw [hexDigits_of_lt hsmall, Nat.add_zero, bracedHex_hexDigit hsmall, Nat.zero_add,
        Nat.pow_one]
    · -- All digits but the last spell a sixteenth of the number, and the last one is read then.
      have hrest : n / 16 < 16 ^ (fuel + 1) :=
        Nat.div_lt_of_lt_mul (by rwa [← Nat.pow_succ'])
      obtain ⟨k, hk, hread⟩ := ih hrest
      refine ⟨k + 1, Nat.succ_le_succ hk, fun count acc cs => ?_⟩
      have hcount : count + (k + 1) + 1 = (count + 1) + k + 1 := by omega
      have hvalue : (acc * 16 ^ (k + 1) + n / 16) * 16 + n % 16 = acc * 16 ^ (k + 1 + 1) + n := by
        rw [Nat.pow_succ 16 (k + 1), ← Nat.mul_assoc]
        omega
      rw [hexDigits_of_le hlarge, hcount, hread,
        bracedHex_hexDigit (Nat.mod_lt n (by decide)), hvalue]

theorem bracedHex_brace (count acc : Nat) (cs : List Char) :
    bracedHex count acc ('\x7d' :: cs) = some (acc, cs) := by
  cases count <;> rfl

theorem charOfNat?_toNat (c : Char) : charOfNat? c.toNat = some c := dif_pos c.valid

/-- A code point that is spelled in digits is read. -/
theorem escape?_hexDigits (c : Char) (rest : List Char) :
    escape? ('u' :: '\x7b' :: hexDigits 6 c.toNat ('\x7d' :: rest)) = some (c, rest) := by
  have hsmall : c.toNat < 16 ^ (5 + 1) := by
    rcases c.valid with h | h
    · exact Nat.lt_trans h (by decide)
    · exact Nat.lt_trans h.2 (by decide)
  have hdigits : bracedHex 6 0 (hexDigits 6 c.toNat ('\x7d' :: rest)) = some (c.toNat, rest) := by
    obtain ⟨k, hk, hread⟩ := bracedHex_hexDigits hsmall
    have hcount : 5 - k + k + 1 = 6 := by omega
    have hread := hread (5 - k) 0 ('\x7d' :: rest)
    rw [hcount, Nat.zero_mul, Nat.zero_add] at hread
    exact hread.trans (bracedHex_brace _ _ _)
  obtain ⟨d, ds, hcons, hbrace⟩ := exists_hexDigits_eq_cons 5 c.toNat ('\x7d' :: rest)
  rw [escape?.eq_10, hdigits]
  · simp only [Option.bind_eq_bind, Option.bind_some, charOfNat?_toNat]
    rfl
  · -- There is a digit, so the braces are not empty.
    rw [hcons]
    rintro _ ⟨⟩
    exact hbrace rfl

/-- A character is escaped, and the escape is read as the character, or it stands for itself. -/
theorem escapeChar_cases (c : Char) :
    (∃ name cs, escapeChar c = '\\' :: name :: cs ∧
      ∀ rest, escape? (name :: (cs ++ rest)) = some (c, rest)) ∨
    (escapeChar c = [c] ∧ c ≠ '"' ∧ c ≠ '\\') := by
  by_cases hnamed : c ∈ ['\x00', '\t', '\r', '\n', '\'', '"', '\\']
  · left
    simp only [List.mem_cons, List.not_mem_nil, or_false] at hnamed
    rcases hnamed with rfl | rfl | rfl | rfl | rfl | rfl | rfl <;>
      exact ⟨_, [], rfl, fun _ => rfl⟩
  · simp only [List.mem_cons, List.not_mem_nil, or_false, not_or] at hnamed
    obtain ⟨hzero, htab, hreturn, hline, hapostrophe, hquote, hslash⟩ := hnamed
    rw [escapeChar, if_neg hzero, if_neg htab, if_neg hreturn, if_neg hline,
      if_neg (not_or.mpr ⟨hapostrophe, not_or.mpr ⟨hquote, hslash⟩⟩)]
    by_cases hplain : Unicode.graphemeExtend.contains c || !Unicode.isPrintable c
    · refine .inl ⟨_, _, if_pos hplain, fun rest => ?_⟩
      rw [List.cons_append, hexDigits_append]
      exact escape?_hexDigits c rest
    · exact .inr ⟨if_neg hplain, hquote, hslash⟩

theorem escapeChar_ne_nil (c : Char) : escapeChar c ≠ [] := by
  rcases escapeChar_cases c with ⟨name, cs, hescape, -⟩ | ⟨hself, -⟩
  · rw [hescape]
    exact List.cons_ne_nil _ _
  · rw [hself]
    exact List.cons_ne_nil _ _

/-- **One character.**  It is read, and reading goes on after it. -/
theorem stringChars_escapeChar (c : Char) (fuel : Nat) (cs : List Char) :
    stringChars (fuel + 1) (escapeChar c ++ cs) =
      (stringChars fuel cs).map fun r => (c :: r.1, r.2) := by
  rcases escapeChar_cases c with ⟨name, cs', hescape, hread⟩ | ⟨hself, hquote, hslash⟩
  · rw [hescape, List.cons_append, List.cons_append, stringChars, if_neg (by decide), if_pos rfl,
      hread]
    simp only [Option.bind_eq_bind, Option.bind_some]
    cases stringChars fuel cs <;> rfl
  · rw [hself, List.singleton_append, stringChars, if_neg hquote, if_neg hslash]
    cases stringChars fuel cs <;> rfl

/-- Characters are read up to the quote that follows them. -/
theorem stringChars_flatMap_escapeChar (cs rest : List Char) {fuel : Nat}
    (hfuel : cs.length < fuel) :
    stringChars fuel (cs.flatMap escapeChar ++ '"' :: rest) = some (cs, rest) := by
  induction cs generalizing fuel with
  | nil =>
    obtain ⟨fuel, rfl⟩ := Nat.exists_eq_add_of_lt hfuel
    rfl
  | cons c cs ih =>
    obtain ⟨fuel, rfl⟩ := Nat.exists_eq_succ_of_ne_zero (Nat.ne_zero_of_lt hfuel)
    rw [List.flatMap_cons, List.append_assoc, stringChars_escapeChar,
      ih (Nat.lt_of_succ_lt_succ hfuel), Option.map_some]

/-- **Strings.**  A quoted text is read in whole. -/
theorem value_quote (s : String) (fuel : Nat) (rest : List Char) :
    value (fuel + 1) (quote s ++ rest) = some (.string s, rest) := by
  have hlength := length_le_length_flatMap escapeChar_ne_nil s.toList
  have hfuel : s.toList.length < (s.toList.flatMap escapeChar ++ '"' :: rest).length + 1 := by
    rw [List.length_append]
    omega
  have hstring (cs : List Char) : value (fuel + 1) ('"' :: cs) =
      (stringChars (cs.length + 1) cs).map fun r => (.string (String.ofList r.1), r.2) := rfl
  rw [quote, List.cons_append, List.append_assoc, List.singleton_append, hstring,
    stringChars_flatMap_escapeChar _ _ hfuel, Option.map_some, String.ofList_toList]

/-! ### Identifiers -/

/-- Whether a text is an identifier, without quotes or other marks around it. -/
def isIdentifier (s : String) : Bool :=
  match s.toList with
  | [] => false
  | c :: cs => isWordStart c && cs.all isWordChar

theorem exists_toList_eq_cons {s : String} (hs : isIdentifier s = true) :
    ∃ c cs, s.toList = c :: cs ∧ isWordStart c = true ∧ ∀ d ∈ cs, isWordChar d = true := by
  rw [isIdentifier] at hs
  cases h : s.toList with
  | nil =>
    rw [h] at hs
    cases hs
  | cons c cs =>
    rw [h] at hs
    have hall := Bool.and_eq_true_iff.mp hs
    exact ⟨c, cs, rfl, hall.1, List.all_eq_true.mp hall.2⟩

/-- What may follow an identifier. -/
def EndsWord (rest : List Char) : Prop := ∀ c ∈ rest.head?, c = ',' ∨ c = ':'

theorem endsWord_cons {c : Char} (hc : c = ',' ∨ c = ':') (cs : List Char) :
    EndsWord (c :: cs) := by
  rintro _ ⟨⟩
  exact hc

theorem EndsWord.takeWhile_eq {rest : List Char} (h : EndsWord rest) :
    rest.takeWhile isWordChar = [] := by
  cases rest with
  | nil => rfl
  | cons c cs => rcases h c rfl with rfl | rfl <;> rfl

theorem EndsWord.dropWhile_eq {rest : List Char} (h : EndsWord rest) :
    rest.dropWhile isWordChar = rest := by
  cases rest with
  | nil => rfl
  | cons c cs => rcases h c rfl with rfl | rfl <;> rfl

theorem EndsWord.any_isRawChar {rest : List Char} (h : EndsWord rest) :
    rest.head?.any isRawChar = false := by
  cases rest with
  | nil => rfl
  | cons c cs => rcases h c rfl with rfl | rfl <;> rfl

/-- **Identifiers.**  An identifier is read up to its end. -/
theorem identifier?_append {s : String} (hs : isIdentifier s = true) {rest : List Char}
    (hrest : EndsWord rest) : identifier? (s.toList ++ rest) = some (s, rest) := by
  obtain ⟨c, cs, hcons, hstart, hchars⟩ := exists_toList_eq_cons hs
  -- No mark of a raw identifier or a raw string comes second.
  have hsecond : ∀ d ∈ (cs ++ rest).head?, d ≠ '#' ∧ d ≠ '"' := by
    intro d hd
    cases cs with
    | nil => rcases hrest d hd with rfl | rfl <;> decide
    | cons e cs =>
      obtain rfl : e = d := Option.some.inj hd
      have he := hchars e List.mem_cons_self
      constructor <;> rintro rfl <;> cases he
  have hdrop : (cs ++ rest).dropWhile isWordChar = rest := by
    rw [List.dropWhile_append_of_pos hchars, hrest.dropWhile_eq]
  have htake : (cs ++ rest).takeWhile isWordChar = cs := by
    rw [List.takeWhile_append_of_pos hchars, hrest.takeWhile_eq, List.append_nil]
  rw [hcons, List.cons_append, identifier?.eq_3, if_pos hstart, hdrop, htake]
  · dsimp only
    rw [hrest.any_isRawChar, ← hcons, String.ofList_toList]
    rfl
  · rintro cs' - heq
    exact (hsecond '#' (by rw [heq]; rfl)).1 rfl
  · rintro cs' - heq
    exact (hsecond '"' (by rw [heq]; rfl)).2 rfl

/-! ### Blank characters -/

theorem skipSpace_cons_of_isSpace {c : Char} (hc : isSpace c = true) (cs : List Char) :
    skipSpace (c :: cs) = skipSpace cs := by
  rw [skipSpace, skipSpaceIn.eq_def]
  dsimp only
  rw [if_pos hc, skipSpace]

theorem skipSpace_newLine (level : Nat) (cs : List Char) :
    skipSpace (newLine level ++ cs) = skipSpace cs := by
  have hspaces (n : Nat) : skipSpace (List.replicate n ' ' ++ cs) = skipSpace cs := by
    induction n with
    | zero => rfl
    | succ n ih => rw [List.replicate_succ, List.cons_append, skipSpace_cons_of_isSpace rfl, ih]
  rw [newLine, List.cons_append, skipSpace_cons_of_isSpace rfl, hspaces]

/-- A token starts with the character, and neither a list nor a record ends there. -/
def Starts (c : Char) : Prop := c ∉ [' ', '\n', '\t', '\r', '/', ']', ')', '#']

instance (c : Char) : Decidable (Starts c) := inferInstanceAs (Decidable (c ∉ _))

theorem starts_of_isWordStart {c : Char} (hc : isWordStart c = true) : Starts c := by
  intro hmem
  simp only [List.mem_cons, List.not_mem_nil, or_false] at hmem
  rcases hmem with rfl | rfl | rfl | rfl | rfl | rfl | rfl | rfl <;> cases hc

theorem skipSpace_cons {c : Char} (hspace : isSpace c = false) (hslash : c ≠ '/') (cs : List Char) :
    skipSpace (c :: cs) = some (c :: cs) := by
  rw [skipSpace, skipSpaceIn.eq_def]
  dsimp only
  rw [hspace, if_neg Bool.false_ne_true, if_neg hslash]

/-- A text starts with the first character of a token, so that nothing is skipped in front. -/
def Begins (cs : List Char) : Prop := ∃ c cs', cs = c :: cs' ∧ Starts c

theorem begins_cons {c : Char} (hc : Starts c) (cs : List Char) : Begins (c :: cs) :=
  ⟨c, cs, rfl, hc⟩

theorem begins_identifier {s : String} (hs : isIdentifier s = true) : Begins s.toList := by
  obtain ⟨c, cs, hcons, hstart, -⟩ := exists_toList_eq_cons hs
  exact ⟨c, cs, hcons, starts_of_isWordStart hstart⟩

namespace Begins

variable {cs : List Char} (h : Begins cs)

include h

theorem append (rest : List Char) : Begins (cs ++ rest) := by
  obtain ⟨c, cs', rfl, hc⟩ := h
  exact begins_cons hc _

theorem length_pos : 0 < cs.length := by
  obtain ⟨c, cs', rfl, hc⟩ := h
  exact Nat.succ_pos _

theorem head?_ne {c : Char} (hc : ¬ Starts c) : cs.head? ≠ some c := by
  obtain ⟨d, cs', rfl, hd⟩ := h
  rintro ⟨⟩
  exact hc hd

theorem skipSpace_eq : skipSpace cs = some cs := by
  obtain ⟨c, cs', rfl, hc⟩ := h
  simp only [Starts, List.mem_cons, List.not_mem_nil, or_false, not_or] at hc
  obtain ⟨hspace, hline, htab, hreturn, hslash, -⟩ := hc
  refine skipSpace_cons ?_ hslash cs'
  simp only [isSpace, Bool.or_eq_false_iff, beq_eq_false_iff_ne]
  exact ⟨⟨⟨hspace, hline⟩, htab⟩, hreturn⟩

end Begins

theorem skipSpace_comma (cs : List Char) : skipSpace (',' :: cs) = some (',' :: cs) :=
  skipSpace_cons (by decide) (by decide) cs

theorem comma_cons (cs : List Char) :
    comma (',' :: cs) = (skipSpace cs).map fun rest => (true, rest) := by
  rw [comma, skipSpace_comma]
  simp only [Option.bind_eq_bind, Option.bind_some]
  cases skipSpace cs <;> rfl

/-! ### Values -/

/-- The identifiers that are not read as words. -/
def reserved : List String := ["true", "false", "inf", "NaN", "Some"]

/-- The trees that are read back. -/
inductive Readable : Tree → Prop
  | nothing : Readable .nothing
  | bool (b : Bool) : Readable (.bool b)
  | text (s : String) : Readable (.text s)
  | word {s : String} (hs : isIdentifier s = true) (hplain : s ∉ reserved) : Readable (.word s)
  | list {vs : List Tree} (hvs : ∀ v ∈ vs, Readable v) : Readable (.list vs)
  | record {fs : List (String × Tree)} (hkeys : ∀ f ∈ fs, isIdentifier f.1 = true)
    (hfs : ∀ f ∈ fs, Readable f.2) : Readable (.record fs)

/-- A tree starts with the first character of a token. -/
theorem begins_chars (level : Nat) {t : Tree} (ht : Readable t) : Begins (chars level t) := by
  cases ht with
  | word hs => exact begins_identifier hs
  | bool b => cases b <;> exact begins_cons (by decide) _
  | @list vs => cases vs <;> rw [chars] <;> exact begins_cons (by decide) _
  | @record fs => cases fs <;> rw [chars] <;> exact begins_cons (by decide) _
  | nothing | text s => exact begins_cons (by decide) _

/-- What may follow a tree. -/
def Follows (rest : List Char) : Prop := ∀ c ∈ rest.head?, c = ','

theorem follows_comma (cs : List Char) : Follows (',' :: cs) := by
  rintro _ ⟨⟩
  rfl

theorem Follows.endsWord {rest : List Char} (h : Follows rest) : EndsWord rest :=
  fun c hc => .inl (h c hc)

theorem Follows.skipSpace_eq {rest : List Char} (h : Follows rest) :
    skipSpace rest = some rest := by
  cases rest with
  | nil => rfl
  | cons c cs =>
    obtain rfl := h c rfl
    exact skipSpace_comma cs

/-- What an identifier on its own is read as, if it is no number. -/
def ofIdentifier (s : String) : Ron :=
  if s = "true" then .bool true else if s = "false" then .bool false else .word s

/-- An identifier stands alone: no bracket follows it. -/
theorem value_identifier {s : String} (hs : isIdentifier s = true)
    (halone : s ∉ ["inf", "NaN", "Some"]) (fuel : Nat) {rest : List Char} (hrest : Follows rest) :
    value (fuel + 1) (s.toList ++ rest) = some (ofIdentifier s, rest) := by
  have hword := identifier?_append hs hrest.endsWord
  rw [value.eq_def]
  dsimp only
  rw [hword]
  split
  -- `true`, `false` and `None` are values of their own.
  case h_1 h | h_2 h | h_5 h =>
    cases h
    rfl
  case h_3 h | h_4 h | h_6 h =>
    cases h
    exact absurd halone (by decide)
  case h_7 htrue hfalse _ _ _ _ h =>
    cases h
    have hplain : ofIdentifier s = .word s := by
      rw [ofIdentifier, if_neg htrue, if_neg hfalse]
    rw [hrest.skipSpace_eq, hplain]
    cases rest with
    | nil => rfl
    | cons c cs =>
      obtain rfl := hrest c rfl
      rfl
  case h_8 h => cases h

theorem ofIdentifier_of_not_mem {s : String} (hplain : s ∉ reserved) :
    ofIdentifier s = .word s := by
  simp only [reserved, List.mem_cons, not_or] at hplain
  rw [ofIdentifier, if_neg hplain.1, if_neg hplain.2.1]

/-- A tree is read in whole, with three times as much fuel as it has characters: reading goes
through at most three functions before the next character. -/
def Reads (t : Tree) : Prop :=
  ∀ level fuel rest, 3 * (chars level t).length ≤ fuel → Follows rest →
    value fuel (chars level t ++ rest) = some (ofTree t, rest)

/-- A tree has at least one character, so there is some fuel. -/
theorem reads_of_succ {t : Tree} (ht : Readable t)
    (h : ∀ level fuel rest, 3 * (chars level t).length ≤ fuel + 1 → Follows rest →
      value (fuel + 1) (chars level t ++ rest) = some (ofTree t, rest)) : Reads t := by
  intro level fuel rest hfuel hrest
  have hpos := (begins_chars level ht).length_pos
  obtain ⟨fuel, rfl⟩ : ∃ n, fuel = n + 1 := ⟨fuel - 1, by omega⟩
  exact h level fuel rest hfuel hrest

/-- Blank characters in front of an item do not count. -/
theorem items_congr {cs cs' : List Char} (h : skipSpace cs = skipSpace cs') (fuel : Nat)
    (closing : Char) : items fuel closing cs = items fuel closing cs' := by
  cases fuel with
  | zero => rw [items, items]
  | succ fuel => rw [items.eq_2, items.eq_2, h]

/-- After an item and a comma, the other items are read. -/
theorem items_comma {fuel : Nat} {cs rest rest' : List Char} {v : Ron} (hcs : Begins cs)
    (hv : value fuel cs = some (v, ',' :: rest)) (hrest : skipSpace rest = some rest') :
    items (fuel + 1) ']' cs = (items fuel ']' rest').map fun r => (v :: r.1, r.2) := by
  rw [items.eq_2, hcs.skipSpace_eq]
  simp only [Option.bind_eq_bind, Option.bind_some, if_neg (hcs.head?_ne (c := ']') (by decide)),
    hv, comma_cons, hrest, Option.map_some]
  cases items fuel ']' rest' <;> rfl

theorem items_end (fuel : Nat) (rest : List Char) :
    items (fuel + 1) ']' (']' :: rest) = some ([], rest) := by
  rw [items.eq_2, skipSpace_cons (by decide) (by decide)]
  rfl

/-- After a field and a comma, the other fields are read. -/
theorem fields_comma {key : String} (hkey : isIdentifier key = true) {fuel : Nat}
    {cs rest rest' : List Char} {v : Ron} (hcs : Begins cs)
    (hv : value fuel cs = some (v, ',' :: rest)) (hrest : skipSpace rest = some rest') :
    fields (fuel + 1) (key.toList ++ ':' :: ' ' :: cs) =
      (fields fuel rest').map fun r => ((key, v) :: r.1, r.2) := by
  have hword := identifier?_append hkey (endsWord_cons (.inr rfl) (' ' :: cs))
  have hcolon : token ':' (':' :: ' ' :: cs) = some cs := by
    rw [token, skipSpace_cons (by decide) (by decide)]
    simp only [Option.bind_eq_bind, Option.bind_some, if_true]
    rw [skipSpace_cons_of_isSpace rfl, hcs.skipSpace_eq]
  have hbegins := (begins_identifier hkey).append (':' :: ' ' :: cs)
  rw [fields.eq_2, hbegins.skipSpace_eq]
  simp only [Option.bind_eq_bind, Option.bind_some,
    if_neg (hbegins.head?_ne (c := ')') (by decide)), hword, hcolon, hv, comma_cons, hrest,
    Option.map_some]
  cases fields fuel rest' <;> rfl

theorem fields_end (fuel : Nat) (rest : List Char) :
    fields (fuel + 1) (')' :: rest) = some ([], rest) := by
  rw [fields.eq_2, skipSpace_cons (by decide) (by decide)]
  rfl

theorem itemChars_cons_append (level : Nat) (v : Tree) (vs : List Tree) (rest : List Char) :
    itemChars level (v :: vs) ++ rest =
      ',' :: (newLine (level + 1) ++ (chars (level + 1) v ++ (itemChars level vs ++ rest))) := by
  simp only [itemChars, List.cons_append, List.append_assoc]

theorem fieldChars_cons_append (level : Nat) (key : String) (v : Tree) (fs : List (String × Tree))
    (rest : List Char) :
    fieldChars level ((key, v) :: fs) ++ rest =
      ',' :: (newLine (level + 1) ++ (key.toList ++ ':' :: ' ' :: (chars (level + 1) v ++
        (fieldChars level fs ++ rest)))) := by
  simp only [fieldChars, List.cons_append, List.append_assoc]

/-- **Lists.**  Items that are read one by one are read in a row. -/
theorem items_chars {v : Tree} {vs : List Tree} (hvs : ∀ w ∈ v :: vs, Readable w ∧ Reads w)
    (level fuel : Nat) (rest : List Char)
    (hfuel : 3 * ((chars (level + 1) v).length + (itemChars level vs).length) < fuel) :
    items fuel ']' (chars (level + 1) v ++
        (itemChars level vs ++ ',' :: (newLine level ++ ']' :: rest))) =
      some (ofTree v :: ofTrees vs, rest) := by
  induction vs generalizing v fuel with
  | nil =>
    obtain ⟨hreadable, hv⟩ := hvs v List.mem_cons_self
    have hbegins := begins_chars (level + 1) hreadable
    have hpos := hbegins.length_pos
    obtain ⟨fuel, rfl⟩ : ∃ n, fuel = n + 2 := ⟨fuel - 2, by omega⟩
    have hfirst (rest : List Char) :=
      hv (level + 1) (fuel + 1) (',' :: rest) (by omega) (follows_comma rest)
    -- A comma follows the last item as well, and then the bracket is alone on its line.
    have hspace : skipSpace (newLine level ++ ']' :: rest) = some (']' :: rest) := by
      rw [skipSpace_newLine, skipSpace_cons (by decide) (by decide)]
    rw [itemChars, List.nil_append, items_comma (hbegins.append _) (hfirst _) hspace, items_end]
    rfl
  | cons w vs ih =>
    obtain ⟨⟨hreadable, hv⟩, hothers⟩ := List.forall_mem_cons.mp hvs
    have hbegins := begins_chars (level + 1) hreadable
    have hnext := begins_chars (level + 1) (hothers w List.mem_cons_self).1
    obtain ⟨fuel, rfl⟩ := Nat.exists_eq_succ_of_ne_zero (Nat.ne_zero_of_lt hfuel)
    have hlength : (itemChars level (w :: vs)).length =
        1 + (newLine (level + 1)).length + (chars (level + 1) w).length +
          (itemChars level vs).length := by
      simp only [itemChars, List.length_cons, List.length_append]
      omega
    have hfirst (rest : List Char) :=
      hv (level + 1) fuel (',' :: rest) (by omega) (follows_comma rest)
    have hspace (rest : List Char) :=
      (skipSpace_newLine (level + 1) _).trans (hnext.append rest).skipSpace_eq
    rw [itemChars_cons_append, items_comma (hbegins.append _) (hfirst _) (hspace _),
      ih hothers fuel (by omega)]
    rfl

/-- **Records.**  Fields whose values are read one by one are read in a row. -/
theorem fields_chars {key : String} {v : Tree} {fs : List (String × Tree)}
    (hkeys : ∀ f ∈ (key, v) :: fs, isIdentifier f.1 = true)
    (hfs : ∀ f ∈ (key, v) :: fs, Readable f.2 ∧ Reads f.2) (level fuel : Nat) (rest : List Char)
    (hfuel : 3 * ((chars (level + 1) v).length + (fieldChars level fs).length) < fuel) :
    fields fuel (key.toList ++ ':' :: ' ' :: (chars (level + 1) v ++
        (fieldChars level fs ++ ',' :: (newLine level ++ ')' :: rest)))) =
      some ((key, ofTree v) :: ofFields fs, rest) := by
  have hkey : isIdentifier key = true := hkeys _ List.mem_cons_self
  obtain ⟨hreadable, hv⟩ : Readable v ∧ Reads v := hfs _ List.mem_cons_self
  have hbegins := begins_chars (level + 1) hreadable
  -- What is known of the first field goes along, as each field is the first one in turn.
  induction fs generalizing key v fuel with
  | nil =>
    have hpos := hbegins.length_pos
    obtain ⟨fuel, rfl⟩ : ∃ n, fuel = n + 2 := ⟨fuel - 2, by omega⟩
    have hfirst (rest : List Char) :=
      hv (level + 1) (fuel + 1) (',' :: rest) (by omega) (follows_comma rest)
    have hspace : skipSpace (newLine level ++ ')' :: rest) = some (')' :: rest) := by
      rw [skipSpace_newLine, skipSpace_cons (by decide) (by decide)]
    rw [fieldChars, List.nil_append, fields_comma hkey (hbegins.append _) (hfirst _) hspace,
      fields_end]
    rfl
  | cons f fs ih =>
    obtain ⟨key', w⟩ := f
    have hkeys' := (List.forall_mem_cons.mp hkeys).2
    have hothers := (List.forall_mem_cons.mp hfs).2
    have hkey' : isIdentifier key' = true := hkeys' _ List.mem_cons_self
    obtain ⟨hreadable', hw⟩ : Readable w ∧ Reads w := hothers _ List.mem_cons_self
    obtain ⟨fuel, rfl⟩ := Nat.exists_eq_succ_of_ne_zero (Nat.ne_zero_of_lt hfuel)
    have hlength : (fieldChars level ((key', w) :: fs)).length =
        3 + (newLine (level + 1)).length + key'.toList.length + (chars (level + 1) w).length +
          (fieldChars level fs).length := by
      simp only [fieldChars, List.length_cons, List.length_append]
      omega
    have hfirst (rest : List Char) :=
      hv (level + 1) fuel (',' :: rest) (by omega) (follows_comma rest)
    have hspace (rest : List Char) :=
      (skipSpace_newLine (level + 1) _).trans ((begins_identifier hkey').append rest).skipSpace_eq
    rw [fieldChars_cons_append, fields_comma hkey (hbegins.append _) (hfirst _) (hspace _),
      ih hkeys' hothers fuel (by omega) hkey' hreadable' hw (begins_chars _ hreadable')]
    rfl

theorem value_list (fuel : Nat) (cs : List Char) :
    value (fuel + 1) ('[' :: cs) = (items fuel ']' cs).map fun r => (.list r.1, r.2) := by
  rw [value.eq_def]
  cases h : items fuel ']' cs <;> simp [identifier?, isWordStart, h]

theorem reads_list {vs : List Tree} (hvs : ∀ v ∈ vs, Readable v ∧ Reads v) : Reads (.list vs) := by
  refine reads_of_succ (.list fun v hv => (hvs v hv).1) fun level fuel rest hfuel hrest => ?_
  cases vs with
  | nil =>
    obtain ⟨fuel, rfl⟩ : ∃ n, fuel = n + 1 := ⟨fuel - 1, by simp [chars] at hfuel; omega⟩
    rw [chars, List.cons_append, value_list, List.singleton_append, items_end]
    rfl
  | cons v vs =>
    have hitems := items_chars hvs level fuel rest (by
      simp only [chars, List.length_cons, List.length_append] at hfuel
      omega)
    rw [chars]
    simp only [List.append_assoc, List.cons_append, List.nil_append]
    rw [value_list, items_congr (skipSpace_newLine ..), hitems]
    rfl

theorem value_group (fuel level : Nat) (cs : List Char) :
    value (fuel + 1) ('(' :: (newLine level ++ cs)) = group fuel none (newLine level ++ cs) := by
  rw [value.eq_def]
  rfl

/-- What starts with an identifier and a colon are fields. -/
theorem group_fields {key : String} (hkey : isIdentifier key = true) (fuel level : Nat)
    (cs : List Char) :
    group (fuel + 1) none (newLine level ++ (key.toList ++ ':' :: cs)) =
      (fields fuel (key.toList ++ ':' :: cs)).map fun r => (.record none r.1, r.2) := by
  have hword := identifier?_append hkey (endsWord_cons (.inr rfl) cs)
  have hfields : startsFields (key.toList ++ ':' :: cs) = some true := by
    rw [startsFields, hword]
    dsimp only
    rw [skipSpace_cons (by decide) (by decide)]
    rfl
  rw [group.eq_2, skipSpace_newLine, ((begins_identifier hkey).append _).skipSpace_eq]
  simp only [Option.bind_eq_bind, Option.bind_some, hfields, if_true]
  cases fields fuel (key.toList ++ ':' :: cs) <;> rfl

theorem reads_record {fs : List (String × Tree)} (hkeys : ∀ f ∈ fs, isIdentifier f.1 = true)
    (hfs : ∀ f ∈ fs, Readable f.2 ∧ Reads f.2) : Reads (.record fs) := by
  refine reads_of_succ (.record hkeys fun f hf => (hfs f hf).1)
    fun level fuel rest hfuel hrest => ?_
  cases fs with
  | nil =>
    -- Two brackets in a row are a value of their own, not a group.
    rw [chars, value.eq_def]
    rfl
  | cons f fs =>
    obtain ⟨key, v⟩ := f
    obtain ⟨fuel, rfl⟩ : ∃ n, fuel = n + 1 := ⟨fuel - 1, by
      simp only [chars, List.length_cons] at hfuel
      omega⟩
    have hfields := fields_chars hkeys hfs level fuel rest (by
      simp only [chars, List.length_cons, List.length_append] at hfuel
      omega)
    rw [chars]
    simp only [List.append_assoc, List.cons_append, List.nil_append]
    rw [value_group, group_fields (hkeys _ List.mem_cons_self), hfields]
    rfl

/-- **Values.**  Every tree that is readable is read in whole. -/
theorem reads {t : Tree} (ht : Readable t) : Reads t := by
  induction ht with
  | nothing =>
    exact reads_of_succ .nothing fun _ fuel _ _ hrest =>
      value_identifier (s := "None") (by decide) (by decide) fuel hrest
  | bool b =>
    refine reads_of_succ (.bool b) fun _ fuel _ _ hrest => ?_
    cases b with
    | false => exact value_identifier (s := "false") (by decide) (by decide) fuel hrest
    | true => exact value_identifier (s := "true") (by decide) (by decide) fuel hrest
  | text s => exact reads_of_succ (.text s) fun _ fuel rest _ _ => value_quote s fuel rest
  | word hs hplain =>
    refine reads_of_succ (.word hs hplain) fun _ fuel _ _ hrest => ?_
    have halone := fun hmem => hplain (List.mem_cons_of_mem _ (List.mem_cons_of_mem _ hmem))
    rw [ofTree, ← ofIdentifier_of_not_mem hplain]
    exact value_identifier hs halone fuel hrest
  | list hvs ih => exact reads_list fun v hv => ⟨hvs v hv, ih v hv⟩
  | record hkeys hfs ih => exact reads_record hkeys fun f hf => ⟨hfs f hf, ih f hf⟩

/-- No attributes stand in front of a value. -/
theorem attributes_eq {cs : List Char} (h : Begins cs) (fuel : Nat) (exts : Extensions) :
    attributes (fuel + 1) exts cs = some (exts, cs) := by
  have hhash := h.head?_ne (c := '#') (by decide)
  rw [attributes, h.skipSpace_eq]
  simp only [Option.bind_eq_bind, Option.bind_some]
  split
  · exact absurd rfl hhash
  · rfl

/-- **What is written is read back.** -/
theorem parse?_write {t : Tree} (ht : Readable t) :
    parse? (write t).toList = some ({}, ofTree t) := by
  have hread := reads ht 0 (3 * (chars 0 t).length + 3) [] (by omega) nofun
  rw [List.append_nil] at hread
  rw [write, String.toList_ofList, parse?, attributes_eq (begins_chars 0 ht)]
  simp only [Option.bind_eq_bind, Option.bind_some, hread]
  rfl

/-! ### Documents -/

/-- Fields that a record knows are kept, if each of them stands once. -/
theorem knownFields_ofFields (d : Node) {known : List String} {fs : List (String × Tree)}
    (hknown : ∀ f ∈ fs, f.1 ∈ known) (hnodup : (fs.map (·.1)).Nodup) :
    d.knownFields known (ofFields fs) = some (fs.map fun f => (f.1, d.inner 2 (ofTree f.2))) := by
  induction fs with
  | nil => rfl
  | cons f fs ih =>
    rw [List.forall_mem_cons] at hknown
    rw [List.map_cons, List.nodup_cons] at hnodup
    have hlookup := lookup_map_eq_none hnodup.1 fun t => d.inner 2 (ofTree t)
    simp only [ofFields, Node.knownFields, ih hknown.2 hnodup.2, Option.bind_eq_bind,
      Option.bind_some, List.contains_iff_mem.mpr hknown.1, if_true, hlookup, Option.isSome_none,
      Bool.false_eq_true, if_false, List.map_cons]

instance : Document.Presents Node where
  ofTree level t := ⟨{}, level, ofTree t⟩
  bool?_ofTree _ _ := rfl
  text?_ofTree _ _ := rfl
  choice?_ofTree _ _ := rfl
  list?_ofTree level ts := by
    rw [ofTree, ofTrees_eq]
    exact congrArg some List.map_map
  looseList?_ofTree level ts := by
    rw [ofTree, ofTrees_eq]
    exact congrArg some List.map_map
  record?_of_known level _ known fs hknown hnodup := by
    cases fs with
    | nil => rfl
    | cons f fs => exact knownFields_ofFields ⟨{}, level, _⟩ hknown hnodup

end VariantStrip.Ron
