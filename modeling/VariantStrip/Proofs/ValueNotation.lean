/-
The notation of values in variables of the environment.

`ConfigValue.Spells` is its grammar: truth values, texts in quotes, single characters, lists and
tables may have blanks around them, and what begins like none of these stands for itself up to the
next separator, as a number or as a text.

* `Quoted`, `Key` and `Spells` — the grammar of strings, of keys, and of all the rest,
* `read_sound` — what the reader takes off a text is spelled by the grammar,
* `read_complete` — what the grammar spells is read, and the reader has fuel enough.

The main result is `value?_eq_some_iff`.
-/
import Mathlib.Data.List.TakeWhile
import VariantStrip.Config.Environment

namespace VariantStrip.ConfigValue

open Text

/-! ### The grammar -/

/-- Blanks that may stand around values. -/
def Spaces (cs : List Char) : Prop := ∀ c ∈ cs, isSpace c = true

/-- A string after its opening quote, up to and with the closing one, and what it spells. -/
inductive Quoted : List Char → List Char → Prop
  | close : Quoted ['"'] []
  | escape {e x s : List Char} {c : Char} (he : Toml.escape? e = some (c, [])) (h : Quoted x s) :
      Quoted ('\\' :: (e ++ x)) (c :: s)
  | plain {x s : List Char} {c : Char} (hquote : c ≠ '"') (hslash : c ≠ '\\')
      (hc : Toml.isPlain c = true) (h : Quoted x s) : Quoted (c :: x) (c :: s)

/-- The name of a field, in quotes or without them. -/
inductive Name : List Char → Prop
  | quoted {x s : List Char} (h : Quoted x s) : Name ('"' :: x)
  | bare {x : List Char} (hne : x ≠ []) (h : ∀ c ∈ x, Toml.isKeyChar c = true) : Name x

/-- What stands in front of the value of a field: its name with blanks around it, and a sign of
equality. -/
inductive Key : List Char → Prop
  | mk {l x r : List Char} (hl : Spaces l) (hx : Name x) (hr : Spaces r) :
      Key (l ++ (x ++ (r ++ ['='])))

/-- The word for a truth value. -/
def word : Bool → List Char
  | true => ['t', 'r', 'u', 'e']
  | false => ['f', 'a', 'l', 's', 'e']

/-- How the values begin that begin with no bracket and do not stand for themselves. -/
def starts : List (List Char) := [word true, word false, ['"'], ['\'']]

/-- A text without separators that begins neither with a blank nor like another value. -/
structure Plain (x : List Char) : Prop where
  no_separator : ∀ c ∈ x, isSeparator c = false
  no_space : ∀ c ∈ x.head?, isSpace c = false
  no_start : ∀ w ∈ starts, ¬ w <+: x

/-- Lists and tables. -/
inductive Bracket where
  | list
  | table

namespace Bracket

/-- The bracket that opens a list or table. -/
def opening : Bracket → Char
  | list => '['
  | table => '\x7b'

/-- The bracket that closes a list or table. -/
def closing : Bracket → Char
  | list => ']'
  | table => '\x7d'

/-- What stands in front of each value: nothing in a list, a key in a table. -/
def Lead : Bracket → List Char → Prop
  | list, k => k = []
  | table, k => Key k

end Bracket

/-- The parts of the notation: a value without the blanks around it, a value with them, and what
follows an opening bracket, up to and with the closing one. -/
inductive Part where
  | core
  | value
  | entries (b : Bracket)

/-- **The grammar** of values.  A comma may follow the last value of a list or table. -/
inductive Spells : Part → List Char → ConfigValue → Prop
  | truth (b : Bool) : Spells .core (word b) (.bool b)
  | string {x s : List Char} (h : Quoted x s) :
      Spells .core ('"' :: x) (.text (String.ofList s))
  | char (c : Char) : Spells .core ['\'', c, '\''] (.text c.toString)
  | bracketed {b : Bracket} {x : List Char} (h : Spells (.entries b) x .other) :
      Spells .core (b.opening :: x) .other
  | padded {l x r : List Char} {v : ConfigValue} (hl : Spaces l) (h : Spells .core x v)
      (hr : Spaces r) : Spells .value (l ++ (x ++ r)) v
  | plain {l x : List Char} (hl : Spaces l) (hx : Plain x) : Spells .value (l ++ x) (ofBare x)
  | close (b : Bracket) : Spells (.entries b) [b.closing] .other
  | last {b : Bracket} {k x : List Char} {v : ConfigValue} (hk : b.Lead k)
      (h : Spells .value x v) : Spells (.entries b) (k ++ (x ++ [b.closing])) .other
  | entry {b : Bracket} {k x y : List Char} {v : ConfigValue} (hk : b.Lead k)
      (h : Spells .value x v) (hy : Spells (.entries b) y .other) :
      Spells (.entries b) (k ++ (x ++ ',' :: y)) .other

/-! ### Blanks -/

theorem skipSpace_append {l : List Char} (hl : Spaces l) (cs : List Char) :
    skipSpace (l ++ cs) = skipSpace cs :=
  List.dropWhile_append_of_pos hl

theorem skipSpace_of_head? {cs : List Char} (h : ∀ c ∈ cs.head?, isSpace c = false) :
    skipSpace cs = cs := by
  cases cs with
  | nil => rfl
  | cons c cs =>
    rw [skipSpace, List.dropWhile_cons_of_neg]
    rw [h c rfl]
    exact Bool.false_ne_true

theorem skipSpace_cons {l : List Char} (hl : Spaces l) {c : Char} (hc : isSpace c = false)
    (cs : List Char) : skipSpace (l ++ c :: cs) = c :: cs := by
  rw [skipSpace_append hl, skipSpace_of_head?]
  rintro c' ⟨⟩
  exact hc

theorem spaces_takeWhile (cs : List Char) : Spaces (cs.takeWhile isSpace) :=
  fun _ hc => List.mem_takeWhile_imp hc

theorem takeWhile_append_skipSpace (cs : List Char) : cs.takeWhile isSpace ++ skipSpace cs = cs :=
  List.takeWhile_append_dropWhile

theorem head?_skipSpace (cs : List Char) : ∀ c ∈ (skipSpace cs).head?, isSpace c = false := by
  intro c hc
  have hhead := List.head?_dropWhile_not isSpace cs
  rw [skipSpace] at hc
  rw [hc] at hhead
  exact hhead

/-! ### Strings -/

theorem length_of_mapM {α β : Type} {f : α → Option β} {xs : List α} {ys : List β}
    (h : xs.mapM f = some ys) : ys.length = xs.length := by
  induction xs generalizing ys with
  | nil =>
    rw [List.mapM_nil] at h
    cases h
    rfl
  | cons x xs ih =>
    rw [List.mapM_cons] at h
    obtain ⟨y, -, h⟩ := Option.bind_eq_some_iff.mp h
    obtain ⟨ys, hys, h⟩ := Option.bind_eq_some_iff.mp h
    cases h
    rw [List.length_cons, List.length_cons, ih hys]

theorem namedChar?_append {e : List Char} {count : Nat} (he : e.length = count) (rest : List Char) :
    namedChar? count (e ++ rest) =
      ((e.mapM hexValue?).bind fun digits => charOfNat? (numberOf 16 digits)).map (·, rest) := by
  subst he
  rw [namedChar?, List.take_left, List.drop_left]
  cases hdigits : e.mapM hexValue? with
  | none => rfl
  | some digits =>
    show (if digits.length = e.length then _ else none) = _
    rw [if_pos (length_of_mapM hdigits), Option.bind_some]
    cases charOfNat? (numberOf 16 digits) <;> rfl

/-- The first characters spell a code point, whatever follows them. -/
theorem namedChar?_eq_some_iff {count : Nat} {cs rest : List Char} {c : Char} :
    namedChar? count cs = some (c, rest) ↔
      ∃ e, cs = e ++ rest ∧ namedChar? count e = some (c, []) := by
  have hsplit {cs rest : List Char} (h : namedChar? count cs = some (c, rest)) :
      ∃ e, e.length = count ∧ cs = e ++ rest := by
    obtain ⟨digits, hdigits, h⟩ := Option.bind_eq_some_iff.mp h
    split at h
    · next hcount =>
      obtain ⟨c', -, h⟩ := Option.bind_eq_some_iff.mp h
      cases h
      exact ⟨cs.take count, (length_of_mapM hdigits).symm.trans hcount,
        (List.take_append_drop count cs).symm⟩
    · cases h
  have hsame {e : List Char} (he : e.length = count) :
      namedChar? count (e ++ rest) = some (c, rest) ↔ namedChar? count e = some (c, []) := by
    have hall := namedChar?_append he []
    rw [List.append_nil] at hall
    rw [namedChar?_append he, hall]
    generalize ((e.mapM hexValue?).bind fun digits => charOfNat? (numberOf 16 digits)) = spelled
    cases spelled with
    | none => simp
    | some c' => simp
  constructor
  · intro h
    obtain ⟨e, he, rfl⟩ := hsplit h
    exact ⟨e, rfl, (hsame he).mp h⟩
  · rintro ⟨e, rfl, h⟩
    obtain ⟨e', he', heq⟩ := hsplit h
    rw [List.append_nil] at heq
    subst heq
    exact (hsame he').mpr h

/-- An escape is spelled by some characters, whatever follows them. -/
theorem escape?_eq_some_iff {cs rest : List Char} {c : Char} :
    Toml.escape? cs = some (c, rest) ↔
      ∃ e, cs = e ++ rest ∧ Toml.escape? e = some (c, []) := by
  constructor
  · intro h
    rw [Toml.escape?.eq_def] at h
    -- Only the escapes of code points take more than one character.
    split at h
    case h_8 tail =>
      obtain ⟨e, rfl, he⟩ := namedChar?_eq_some_iff.mp h
      exact ⟨'u' :: e, rfl, he⟩
    case h_9 tail =>
      obtain ⟨e, rfl, he⟩ := namedChar?_eq_some_iff.mp h
      exact ⟨'U' :: e, rfl, he⟩
    case h_10 => cases h
    all_goals
      cases h
      exact ⟨[_], rfl, rfl⟩
  · rintro ⟨e, rfl, h⟩
    rw [Toml.escape?.eq_def] at h
    split at h
    case h_8 tail => exact namedChar?_eq_some_iff.mpr ⟨tail, rfl, h⟩
    case h_9 tail => exact namedChar?_eq_some_iff.mpr ⟨tail, rfl, h⟩
    case h_10 => cases h
    all_goals
      cases h
      rfl

/-- A string is taken off a text as the grammar spells it. -/
theorem string?_sound {fuel : Nat} {cs s rest : List Char}
    (h : Toml.string? '"' fuel cs = some (s, rest)) : ∃ x, cs = x ++ rest ∧ Quoted x s := by
  induction fuel generalizing cs s with
  | zero => cases h
  | succ fuel ih =>
    cases cs with
    | nil => cases h
    | cons c cs =>
      rw [Toml.string?] at h
      split at h
      · next hquote =>
        cases h
        exact ⟨[c], rfl, hquote ▸ .close⟩
      · next hquote =>
        split at h
        · next hslash =>
          obtain ⟨⟨c', cs'⟩, hescape, h⟩ := Option.bind_eq_some_iff.mp h
          obtain ⟨⟨body, rest'⟩, hbody, h⟩ := Option.bind_eq_some_iff.mp h
          cases h
          obtain ⟨e, rfl, he⟩ := escape?_eq_some_iff.mp hescape
          obtain ⟨x, rfl, hx⟩ := ih hbody
          refine ⟨'\\' :: (e ++ x), ?_, .escape he hx⟩
          rw [hslash.1, List.cons_append, List.append_assoc]
        · next hslash =>
          split at h
          · next hplain =>
            obtain ⟨⟨body, rest'⟩, hbody, h⟩ := Option.bind_eq_some_iff.mp h
            cases h
            obtain ⟨x, rfl, hx⟩ := ih hbody
            exact ⟨c :: x, rfl, .plain hquote (fun hc => hslash ⟨hc, rfl⟩) hplain hx⟩
          · cases h

/-- A string of the grammar is read. -/
theorem string?_complete {x s : List Char} (h : Quoted x s) {fuel : Nat} (hfuel : x.length ≤ fuel)
    (rest : List Char) : Toml.string? '"' fuel (x ++ rest) = some (s, rest) := by
  induction h generalizing fuel with
  | close =>
    obtain ⟨fuel, rfl⟩ : ∃ n, fuel = n + 1 := ⟨fuel - 1, by simp at hfuel; omega⟩
    rfl
  | @escape e x s c he hx ih =>
    obtain ⟨fuel, rfl⟩ : ∃ n, fuel = n + 1 := ⟨fuel - 1, by simp at hfuel; omega⟩
    have hescape : Toml.escape? (e ++ (x ++ rest)) = some (c, x ++ rest) :=
      escape?_eq_some_iff.mpr ⟨e, rfl, he⟩
    have hbody : Toml.string? '"' fuel (x ++ rest) = some (s, rest) := by
      refine ih ?_
      simp only [List.length_cons, List.length_append] at hfuel
      omega
    rw [List.cons_append, List.append_assoc, Toml.string?, if_neg (by decide), if_pos (by decide),
      hescape]
    show (Toml.string? '"' fuel (x ++ rest)).bind _ = _
    rw [hbody]
    rfl
  | @plain x s c hquote hslash hc hx ih =>
    obtain ⟨fuel, rfl⟩ : ∃ n, fuel = n + 1 := ⟨fuel - 1, by simp at hfuel; omega⟩
    have hbody : Toml.string? '"' fuel (x ++ rest) = some (s, rest) := by
      refine ih ?_
      rw [List.length_cons] at hfuel
      omega
    rw [List.cons_append, Toml.string?, if_neg hquote, if_neg (fun h => hslash h.1), if_pos hc,
      hbody]
    rfl

/-! ### Keys -/

theorem isSpace_of_isKeyChar {c : Char} (hc : Toml.isKeyChar c = true) : isSpace c = false := by
  cases hspace : isSpace c with
  | false => rfl
  | true =>
    simp only [isSpace, Bool.or_eq_true, beq_iff_eq] at hspace
    rcases hspace with (((rfl | rfl) | rfl) | rfl) | rfl <;> exact absurd hc (by decide)

theorem isSpace_equals : isSpace '=' = false := by decide

theorem isKeyChar_of_isSpace {c : Char} (hc : isSpace c = true) : Toml.isKeyChar c = false := by
  cases hkey : Toml.isKeyChar c with
  | false => rfl
  | true => exact absurd hc (by rw [isSpace_of_isKeyChar hkey]; exact Bool.false_ne_true)

/-- A name is taken off a text, with the blanks before it. -/
theorem skipKey?_sound {cs rest : List Char} (h : skipKey? cs = some rest) :
    ∃ k, cs = k ++ rest ∧ Key k := by
  -- A name in quotes and one without them are followed by the same.
  have hkey {x tail : List Char} (hx : skipSpace cs = x ++ tail) (hname : Name x)
      (htail : skipSpace tail = '=' :: rest) : ∃ k, cs = k ++ rest ∧ Key k := by
    refine ⟨_, ?_, .mk (spaces_takeWhile cs) hname (spaces_takeWhile tail)⟩
    calc cs = cs.takeWhile isSpace ++ (x ++ (tail.takeWhile isSpace ++ skipSpace tail)) := by
          rw [takeWhile_append_skipSpace, ← hx, takeWhile_append_skipSpace]
      _ = _ := by
          rw [htail]
          simp
  rw [skipKey?] at h
  split at h
  · next body hbody =>
    obtain ⟨tail, htail, hafter⟩ := Option.bind_eq_some_iff.mp h
    obtain ⟨⟨s, tail'⟩, hs, htail'⟩ := Option.map_eq_some_iff.mp htail
    obtain ⟨x, rfl, hx⟩ := string?_sound hs
    cases htail'
    dsimp only at hafter
    split at hafter
    · next rest' hequals =>
      cases hafter
      exact hkey (x := '"' :: x) hbody (.quoted hx) hequals
    · cases hafter
  · split at h
    · next hhead =>
      obtain ⟨tail, htail, hafter⟩ := Option.bind_eq_some_iff.mp h
      cases htail
      dsimp only at hafter
      split at hafter
      case h_2 => cases hafter
      next rest' hequals =>
      cases hafter
      refine hkey List.takeWhile_append_dropWhile.symm (.bare ?_ fun c hc => ?_) hequals
      · cases hcs : skipSpace cs with
        | nil =>
          rw [hcs] at hhead
          cases hhead
        | cons c cs' =>
          rw [hcs] at hhead
          rw [List.takeWhile_cons_of_pos (show Toml.isKeyChar c = true from hhead)]
          exact List.cons_ne_nil _ _
      · exact List.mem_takeWhile_imp hc
    · cases h

/-- A key of the grammar is skipped. -/
theorem skipKey?_complete {k : List Char} (h : Key k) (rest : List Char) :
    skipKey? (k ++ rest) = some rest := by
  obtain @⟨l, x, r, hl, hx, hr⟩ := h
  have hafter : skipSpace (r ++ ('=' :: rest)) = '=' :: rest := by
    rw [skipSpace_append hr, skipSpace_of_head?]
    rintro c ⟨⟩
    exact isSpace_equals
  have htext : l ++ (x ++ (r ++ ['='])) ++ rest = l ++ (x ++ (r ++ '=' :: rest)) := by simp
  rw [htext, skipKey?, skipSpace_append hl]
  cases hx with
  | @quoted x s hx =>
    have hskip : skipSpace ('"' :: x ++ (r ++ '=' :: rest)) = '"' :: (x ++ (r ++ '=' :: rest)) :=
      skipSpace_of_head? (by rintro c ⟨⟩; decide)
    have hstring : Toml.string? '"' ('"' :: (x ++ (r ++ '=' :: rest))).length
        (x ++ (r ++ '=' :: rest)) = some (s, r ++ '=' :: rest) :=
      string?_complete hx (by simp; omega) _
    rw [hskip]
    show Option.bind (Option.map _ (Toml.string? '"' ('"' :: (x ++ (r ++ '=' :: rest))).length
      (x ++ (r ++ '=' :: rest)))) _ = _
    rw [hstring, Option.map_some, Option.bind_some]
    dsimp only
    rw [hafter]
    rfl
  | bare hne hx =>
    obtain ⟨c, x, rfl⟩ := List.exists_cons_of_ne_nil hne
    have hc := hx c List.mem_cons_self
    have hskip : skipSpace (c :: x ++ (r ++ '=' :: rest)) = c :: x ++ (r ++ '=' :: rest) := by
      refine skipSpace_of_head? ?_
      rintro c ⟨⟩
      exact isSpace_of_isKeyChar hc
    have hname : (c :: x ++ (r ++ '=' :: rest)).dropWhile Toml.isKeyChar = r ++ '=' :: rest := by
      rw [List.dropWhile_append_of_pos hx]
      cases r with
      | nil => rfl
      | cons b r =>
        rw [List.cons_append, List.dropWhile_cons_of_neg]
        rw [isKeyChar_of_isSpace (hr b List.mem_cons_self)]
        exact Bool.false_ne_true
    rw [hskip]
    -- A name without quotes does not begin with one.
    split
    · next body hbody =>
      obtain ⟨rfl, -⟩ := List.cons.inj hbody
      cases hc
    · rw [if_pos (show ((c :: x ++ (r ++ '=' :: rest)).head?.any Toml.isKeyChar) = true from hc),
        hname]
      show Option.bind (some (r ++ '=' :: rest)) _ = _
      rw [Option.bind_some]
      dsimp only
      rw [hafter]
      rfl

/-! ### Lists and tables -/

namespace Bracket

/-- Skips what stands in front of a value. -/
def skipLead? : Bracket → List Char → Option (List Char)
  | list, cs => some cs
  | table, cs => skipKey? cs

/-- Skips the entries of a list or table and its closing bracket. -/
def skip? : Bracket → (fuel : Nat) → List Char → Option (List Char)
  | list => items?
  | table => pairs?

theorem skipLead?_sound {b : Bracket} {cs rest : List Char} (h : b.skipLead? cs = some rest) :
    ∃ k, cs = k ++ rest ∧ b.Lead k := by
  cases b with
  | list =>
    cases h
    exact ⟨[], rfl, rfl⟩
  | table => exact skipKey?_sound h

theorem skipLead?_complete {b : Bracket} {k : List Char} (h : b.Lead k) (rest : List Char) :
    b.skipLead? (k ++ rest) = some rest := by
  cases b with
  | list =>
    cases h
    rfl
  | table => exact skipKey?_complete h rest

theorem skip?_closing (b : Bracket) (fuel : Nat) (rest : List Char) :
    b.skip? (fuel + 1) (b.closing :: rest) = some rest := by
  cases b with
  | list => rfl
  | table => rfl

/-- Skipping an entry, and those after it if a comma follows. -/
theorem skip?_succ_eq_some_iff {b : Bracket} {fuel : Nat} {cs rest : List Char}
    (hcs : cs.head? ≠ some b.closing) :
    b.skip? (fuel + 1) cs = some rest ↔
      ∃ middle, b.skipLead? cs = some middle ∧ ∃ v after, value? fuel middle = some (v, after) ∧
        ((∃ y, after = ',' :: y ∧ b.skip? fuel y = some rest) ∨ after = b.closing :: rest) := by
  have hopen : ∀ rest, cs = b.closing :: rest → False := by
    rintro rest rfl
    exact hcs rfl
  cases b with
  | list =>
    rw [skip?, items?]
    · constructor
      · intro h
        obtain ⟨⟨v, after⟩, hv, h⟩ := Option.bind_eq_some_iff.mp h
        refine ⟨cs, rfl, v, after, hv, ?_⟩
        dsimp only at h
        split at h
        · exact .inl ⟨_, rfl, h⟩
        · exact .inr (congrArg _ (Option.some.inj h))
        · cases h
      · rintro ⟨_, ⟨⟩, v, after, hv, hafter⟩
        refine Option.bind_eq_some_iff.mpr ⟨(v, after), hv, ?_⟩
        rcases hafter with ⟨y, rfl, hy⟩ | rfl
        · exact hy
        · rfl
    · exact hopen
  | table =>
    rw [skip?, pairs?]
    · constructor
      · intro h
        obtain ⟨middle, hmiddle, h⟩ := Option.bind_eq_some_iff.mp h
        obtain ⟨⟨v, after⟩, hv, h⟩ := Option.bind_eq_some_iff.mp h
        refine ⟨middle, hmiddle, v, after, hv, ?_⟩
        dsimp only at h
        split at h
        · exact .inl ⟨_, rfl, h⟩
        · exact .inr (congrArg _ (Option.some.inj h))
        · cases h
      · rintro ⟨middle, hmiddle, v, after, hv, hafter⟩
        refine Option.bind_eq_some_iff.mpr ⟨middle, hmiddle,
          Option.bind_eq_some_iff.mpr ⟨(v, after), hv, ?_⟩⟩
        rcases hafter with ⟨y, rfl, hy⟩ | rfl
        · exact hy
        · rfl
    · exact hopen

end Bracket

/-! ### Reading -/

/-- A value may stand before a text: the text is over, or an entry ends. -/
def Ends (rest : List Char) : Prop := ∀ c ∈ rest.head?, c = ',' ∨ c = ']' ∨ c = '\x7d'

/-- What has been read is a value with the blanks around it. -/
theorem exists_padded {cs x tail : List Char} {v : ConfigValue} (hcs : skipSpace cs = x ++ tail)
    (h : Spells .core x v) : ∃ y, cs = y ++ skipSpace tail ∧ Spells .value y v := by
  refine ⟨_, ?_, .padded (spaces_takeWhile cs) h (spaces_takeWhile tail)⟩
  calc cs = cs.takeWhile isSpace ++ (x ++ (tail.takeWhile isSpace ++ skipSpace tail)) := by
        rw [takeWhile_append_skipSpace, ← hcs, takeWhile_append_skipSpace]
    _ = _ := by simp

/-- What stands before the next separator is plain, if it begins like no other value. -/
theorem plain_takeWhile {cs : List Char} (hspace : ∀ c ∈ cs.head?, isSpace c = false)
    (hstart : ∀ w ∈ starts, ¬ w <+: cs) :
    Plain (cs.takeWhile (!isSeparator ·)) := by
  refine ⟨fun c hc => ?_, fun c hc => hspace c ?_, fun w hw hprefix => hstart w hw ?_⟩
  · have hnot := List.mem_takeWhile_imp hc
    exact Bool.not_eq_true' _ ▸ hnot
  · rw [List.head?_takeWhile] at hc
    exact (Option.mem_filter_iff.mp hc).1
  · exact hprefix.trans (List.takeWhile_prefix _)

/-- **What is taken off a text is spelled by the grammar.** -/
theorem read_sound (fuel : Nat) :
    (∀ cs v rest, value? fuel cs = some (v, rest) → ∃ x, cs = x ++ rest ∧ Spells .value x v) ∧
      ∀ (b : Bracket) cs rest, b.skip? fuel cs = some rest →
        ∃ x, cs = x ++ rest ∧ Spells (.entries b) x .other := by
  -- Values and entries call each other with less fuel, so both are shown at once.
  induction fuel with
  | zero =>
    refine ⟨?_, ?_⟩
    · intro cs v rest h
      cases h
    · rintro (_ | _) cs rest h
      · cases h
      · cases h
  | succ fuel ih =>
    obtain ⟨ihvalue, ihskip⟩ := ih
    refine ⟨?_, ?_⟩
    · intro cs v rest h
      rw [value?] at h
      split at h
      · next tail htail =>
        cases h
        exact exists_padded (x := word true) htail (.truth true)
      · next tail htail =>
        cases h
        exact exists_padded (x := word false) htail (.truth false)
      · next tail htail =>
        obtain ⟨after, hafter, h⟩ := Option.map_eq_some_iff.mp h
        cases h
        obtain ⟨x, rfl, hx⟩ := ihskip .table tail after hafter
        exact exists_padded (x := _ :: x) htail (.bracketed hx)
      · next tail htail =>
        obtain ⟨after, hafter, h⟩ := Option.map_eq_some_iff.mp h
        cases h
        obtain ⟨x, rfl, hx⟩ := ihskip .list tail after hafter
        exact exists_padded (x := _ :: x) htail (.bracketed hx)
      · next tail htail =>
        obtain ⟨⟨s, after⟩, hs, h⟩ := Option.map_eq_some_iff.mp h
        cases h
        obtain ⟨x, rfl, hx⟩ := string?_sound hs
        exact exists_padded (x := '"' :: x) htail (.string hx)
      · next tail htail =>
        split at h
        · next c after =>
          cases h
          exact exists_padded (x := ['\'', c, '\'']) htail (.char c)
        · cases h
      · next htrue hfalse htable hlist hstring hchar =>
        cases h
        refine ⟨_, ?_, .plain (spaces_takeWhile cs) (plain_takeWhile (head?_skipSpace cs) ?_)⟩
        · rw [List.append_assoc, List.takeWhile_append_dropWhile, takeWhile_append_skipSpace]
        · simp only [starts, List.forall_mem_cons]
          refine ⟨?_, ?_, ?_, ?_, by simp⟩
          · rintro ⟨tail, htail⟩
            exact htrue tail htail.symm
          · rintro ⟨tail, htail⟩
            exact hfalse tail htail.symm
          · rintro ⟨tail, htail⟩
            exact hstring tail htail.symm
          · rintro ⟨tail, htail⟩
            exact hchar tail htail.symm
    · intro b cs rest h
      by_cases hcs : cs.head? = some b.closing
      · obtain ⟨tail, rfl⟩ := List.head?_eq_some_iff.mp hcs
        rw [b.skip?_closing] at h
        cases h
        exact ⟨[b.closing], rfl, .close b⟩
      · obtain ⟨middle, hmiddle, v, after, hv, hafter⟩ := (Bracket.skip?_succ_eq_some_iff hcs).mp h
        obtain ⟨k, rfl, hk⟩ := Bracket.skipLead?_sound hmiddle
        obtain ⟨x, rfl, hx⟩ := ihvalue _ _ _ hv
        rcases hafter with ⟨y, rfl, hy⟩ | rfl
        · obtain ⟨z, rfl, hz⟩ := ihskip b y rest hy
          exact ⟨k ++ (x ++ ',' :: z), by simp, .entry hk hx hz⟩
        · exact ⟨k ++ (x ++ [b.closing]), by simp, .last hk hx⟩

theorem Ends.isSeparator {rest : List Char} (h : Ends rest) :
    ∀ c ∈ rest.head?, isSeparator c = true := by
  intro c hc
  rcases h c hc with rfl | rfl | rfl
  · decide
  · decide
  · decide

theorem Ends.skipSpace_eq {rest : List Char} (h : Ends rest) {r : List Char} (hr : Spaces r) :
    skipSpace (r ++ rest) = rest := by
  rw [skipSpace_append hr]
  refine skipSpace_of_head? fun c hc => ?_
  rcases h c hc with rfl | rfl | rfl
  · decide
  · decide
  · decide

section

variable {x rest : List Char} (hx : Plain x) (hrest : Ends rest)

include hx hrest

theorem Plain.takeWhile_append : (x ++ rest).takeWhile (!isSeparator ·) = x := by
  have hall : ∀ c ∈ x, (!isSeparator c) = true := by
    intro c hc
    rw [hx.no_separator c hc]
    rfl
  rw [List.takeWhile_append_of_pos hall]
  cases rest with
  | nil => exact List.append_nil x
  | cons c rest =>
    rw [List.takeWhile_cons_of_neg (by simp [hrest.isSeparator c rfl]), List.append_nil]

theorem Plain.dropWhile_append : (x ++ rest).dropWhile (!isSeparator ·) = rest := by
  have hsplit := List.takeWhile_append_dropWhile (p := (!isSeparator ·)) (l := x ++ rest)
  rw [hx.takeWhile_append hrest] at hsplit
  exact List.append_cancel_left hsplit

end

/-- How a text without separators begins can be told from what stands before a separator. -/
theorem prefix_of_append_eq {w x tail rest : List Char} (h : w ++ tail = x ++ rest)
    (hw : ∀ c ∈ w, isSeparator c = false) (hrest : ∀ c ∈ rest.head?, isSeparator c = true) :
    w <+: x := by
  rcases List.append_eq_append_iff.mp h with ⟨a, rfl, rfl⟩ | ⟨b, rfl, rfl⟩
  · exact List.prefix_append w a
  · cases b with
    | nil => exact ⟨[], by simp⟩
    | cons c b =>
      have hc := hw c (List.mem_append_right x List.mem_cons_self)
      rw [hrest c rfl] at hc
      cases hc

theorem ne_closing_of_isSpace {c : Char} (hc : isSpace c = true) (b : Bracket) :
    c ≠ b.closing := by
  rintro rfl
  cases b with
  | list => cases hc
  | table => cases hc

/-- A key does not begin with the bracket that closes a table. -/
theorem Key.head?_ne_closing {k : List Char} (h : Key k) (cs : List Char) :
    (k ++ cs).head? ≠ some Bracket.table.closing := by
  intro hcs
  obtain @⟨l, x, r, hl, hx, hr⟩ := h
  cases l with
  | cons c l =>
    exact ne_closing_of_isSpace (hl c List.mem_cons_self) .table (Option.some.inj hcs)
  | nil =>
    cases hx with
    | quoted _ => cases hcs
    | bare hne hkey =>
      obtain ⟨c, x, rfl⟩ := List.exists_cons_of_ne_nil hne
      have hc := hkey c List.mem_cons_self
      cases hcs
      cases hc

/-- A value that begins with a closing bracket is empty: the bracket stands after it. -/
theorem Spells.eq_nil_of_head?_closing {b : Bracket} {x cs : List Char} {v : ConfigValue}
    (h : Spells .value x v) (hcs : (x ++ cs).head? = some b.closing) : x = [] := by
  cases h with
  | @padded l y r v hl hy hr =>
    exfalso
    cases l with
    | cons c l =>
      exact ne_closing_of_isSpace (hl c List.mem_cons_self) b (Option.some.inj hcs)
    | nil =>
      cases hy with
      | truth t => cases t <;> cases b <;> cases hcs
      | string _ => cases b <;> cases hcs
      | char c => cases b <;> cases hcs
      | @bracketed b' _ _ => cases b' <;> cases b <;> cases hcs
  | @plain l y hl hy =>
    cases l with
    | cons c l =>
      exact absurd (Option.some.inj hcs) (ne_closing_of_isSpace (hl c List.mem_cons_self) b)
    | nil =>
      cases y with
      | nil => rfl
      | cons c y =>
        -- Closing brackets are separators, and a plain text has none.
        have hc := hy.no_separator c List.mem_cons_self
        cases b <;> (cases hcs; cases hc)

/-- What stands before a closing bracket is empty if nothing is in between. -/
theorem eq_nil_of_head?_closing {b : Bracket} {k x cs : List Char} {v : ConfigValue}
    (hk : b.Lead k) (hx : Spells .value x v)
    (hcs : (k ++ (x ++ cs)).head? = some b.closing) : k = [] ∧ x = [] := by
  cases b with
  | table => exact absurd hcs (Key.head?_ne_closing hk _)
  | list =>
    cases hk
    exact ⟨rfl, hx.eq_nil_of_head?_closing hcs⟩

theorem no_separator_of_mem_starts {w : List Char} (hw : w ∈ starts) :
    ∀ c ∈ w, isSeparator c = false := by
  have hall : w.all (fun c => !isSeparator c) = true := by
    simp only [starts, List.mem_cons, List.not_mem_nil, or_false] at hw
    rcases hw with rfl | rfl | rfl | rfl <;> rfl
  intro c hc
  have hnot := List.all_eq_true.mp hall c hc
  exact Bool.not_eq_true' _ ▸ hnot

/-- A plain text is read up to where it ends. -/
theorem value?_plain {l x rest : List Char} (hl : Spaces l) (hx : Plain x) (hrest : Ends rest)
    (fuel : Nat) : value? (fuel + 1) (l ++ (x ++ rest)) = some (ofBare x, rest) := by
  have hskip : skipSpace (l ++ (x ++ rest)) = x ++ rest := by
    rw [skipSpace_append hl]
    cases x with
    | nil => exact hrest.skipSpace_eq (List.forall_mem_nil _)
    | cons c x =>
      refine skipSpace_of_head? ?_
      rintro c' ⟨⟩
      exact hx.no_space c rfl
  have hstart {w tail : List Char} (hw : w ∈ starts) (h : x ++ rest = w ++ tail) : False :=
    hx.no_start w hw (prefix_of_append_eq h.symm (no_separator_of_mem_starts hw)
      hrest.isSeparator)
  -- An opening bracket is a separator, but none that an entry may end with.
  have hopen {c : Char} {tail : List Char} (hc : isSeparator c = true)
      (hc' : ¬ (c = ',' ∨ c = ']' ∨ c = '\x7d')) (h : x ++ rest = c :: tail) : False := by
    cases x with
    | nil =>
      rw [List.nil_append] at h
      exact hc' (hrest c (by rw [h]; rfl))
    | cons c' x =>
      cases h
      rw [hx.no_separator c List.mem_cons_self] at hc
      cases hc
  rw [value?, hskip]
  split
  · next tail h => exact (hstart (w := word true) (by simp [starts]) h).elim
  · next tail h => exact (hstart (w := word false) (by simp [starts]) h).elim
  · next tail h => exact (hopen (by decide) (by decide) h).elim
  · next tail h => exact (hopen (by decide) (by decide) h).elim
  · next tail h => exact (hstart (w := ['"']) (by simp [starts]) h).elim
  · next tail h => exact (hstart (w := ['\'']) (by simp [starts]) h).elim
  · rw [hx.takeWhile_append hrest, hx.dropWhile_append hrest]

/-- What the reader does with a part of the notation, given fuel enough. -/
def Reads : Part → List Char → ConfigValue → Prop
  | .core, x, v => ∀ l r rest fuel, Spaces l → Spaces r → Ends rest → 2 * x.length ≤ fuel →
      value? (fuel + 1) (l ++ (x ++ (r ++ rest))) = some (v, rest)
  | .value, x, v => ∀ rest fuel, Ends rest → 2 * x.length + 1 ≤ fuel →
      value? fuel (x ++ rest) = some (v, rest)
  | .entries b, x, _ => ∀ rest fuel, 2 * x.length + 1 ≤ fuel →
      b.skip? fuel (x ++ rest) = some rest

/-- **What the grammar spells is read.** -/
theorem read_complete {p : Part} {x : List Char} {v : ConfigValue} (h : Spells p x v) :
    Reads p x v := by
  -- By induction on the grammar.  A value without blanks is read together with those around it,
  -- because the reader skips them before it looks at the value, and again after it.
  induction h with
  | truth b =>
    intro l r rest fuel hl hr hrest hfuel
    cases b with
    | true =>
      rw [value?, word, List.cons_append, skipSpace_cons hl (by decide)]
      show some (ConfigValue.bool true, skipSpace (r ++ rest)) = _
      rw [hrest.skipSpace_eq hr]
    | false =>
      rw [value?, word, List.cons_append, skipSpace_cons hl (by decide)]
      show some (ConfigValue.bool false, skipSpace (r ++ rest)) = _
      rw [hrest.skipSpace_eq hr]
  | @string x s hx =>
    intro l r rest fuel hl hr hrest hfuel
    have hstring : Toml.string? '"' (l ++ '"' :: (x ++ (r ++ rest))).length (x ++ (r ++ rest)) =
        some (s, r ++ rest) :=
      string?_complete hx (by simp; omega) _
    rw [value?, List.cons_append, skipSpace_cons hl (by decide)]
    show Option.map _ (Toml.string? '"' (l ++ '"' :: (x ++ (r ++ rest))).length
      (x ++ (r ++ rest))) = _
    rw [hstring]
    show some (ConfigValue.text (String.ofList s), skipSpace (r ++ rest)) = _
    rw [hrest.skipSpace_eq hr]
  | char c =>
    intro l r rest fuel hl hr hrest hfuel
    rw [value?, List.cons_append, skipSpace_cons hl (by decide)]
    show some (ConfigValue.text c.toString, skipSpace (r ++ rest)) = _
    rw [hrest.skipSpace_eq hr]
  | @bracketed b x hx ih =>
    intro l r rest fuel hl hr hrest hfuel
    have hskip : b.skip? fuel (x ++ (r ++ rest)) = some (r ++ rest) := by
      refine ih _ _ ?_
      rw [List.length_cons] at hfuel
      omega
    cases b with
    | list =>
      rw [value?, List.cons_append, skipSpace_cons hl (by decide)]
      show (items? fuel (x ++ (r ++ rest))).map _ = _
      rw [show items? fuel (x ++ (r ++ rest)) = some (r ++ rest) from hskip, Option.map_some,
        hrest.skipSpace_eq hr]
    | table =>
      rw [value?, List.cons_append, skipSpace_cons hl (by decide)]
      show (pairs? fuel (x ++ (r ++ rest))).map _ = _
      rw [show pairs? fuel (x ++ (r ++ rest)) = some (r ++ rest) from hskip, Option.map_some,
        hrest.skipSpace_eq hr]
  | @padded l x r v hl hx hr ih =>
    intro rest fuel hrest hfuel
    simp only [List.length_append] at hfuel
    obtain ⟨fuel, rfl⟩ : ∃ n, fuel = n + 1 := ⟨fuel - 1, by omega⟩
    rw [List.append_assoc, List.append_assoc]
    exact ih l r rest fuel hl hr hrest (by omega)
  | @plain l x hl hx =>
    intro rest fuel hrest hfuel
    obtain ⟨fuel, rfl⟩ : ∃ n, fuel = n + 1 := ⟨fuel - 1, by omega⟩
    rw [List.append_assoc]
    exact value?_plain hl hx hrest fuel
  | close b =>
    intro rest fuel hfuel
    obtain ⟨fuel, rfl⟩ : ∃ n, fuel = n + 1 := ⟨fuel - 1, by omega⟩
    exact b.skip?_closing fuel rest
  | @last b k x v hk hx ih =>
    intro rest fuel hfuel
    simp only [List.length_append, List.length_singleton] at hfuel
    obtain ⟨fuel, rfl⟩ : ∃ n, fuel = n + 1 := ⟨fuel - 1, by omega⟩
    rw [List.append_assoc, List.append_assoc]
    by_cases hcs : (k ++ (x ++ ([b.closing] ++ rest))).head? = some b.closing
    · -- An empty value before the bracket is none.
      obtain ⟨rfl, rfl⟩ := eq_nil_of_head?_closing hk hx hcs
      exact b.skip?_closing fuel rest
    · refine (Bracket.skip?_succ_eq_some_iff hcs).mpr ⟨_, Bracket.skipLead?_complete hk _, v, _,
        ih _ _ ?_ (by omega), .inr rfl⟩
      rintro c ⟨⟩
      cases b with
      | list => exact .inr (.inl rfl)
      | table => exact .inr (.inr rfl)
  | @entry b k x y v hk hx hy ihx ihy =>
    intro rest fuel hfuel
    simp only [List.length_append, List.length_cons] at hfuel
    obtain ⟨fuel, rfl⟩ : ∃ n, fuel = n + 1 := ⟨fuel - 1, by omega⟩
    rw [List.append_assoc, List.append_assoc]
    have hcs : (k ++ (x ++ (',' :: y ++ rest))).head? ≠ some b.closing := by
      intro hcs
      obtain ⟨rfl, rfl⟩ := eq_nil_of_head?_closing hk hx hcs
      cases b <;> cases hcs
    refine (Bracket.skip?_succ_eq_some_iff hcs).mpr ⟨_, Bracket.skipLead?_complete hk _, v, _,
      ihx _ _ ?_ (by omega), .inl ⟨_, rfl, ihy _ _ (by omega)⟩⟩
    rintro c ⟨⟩
    exact .inl rfl

/-- **The reader and the grammar** agree on whole texts. -/
theorem value?_eq_some_iff {cs : List Char} {v : ConfigValue} :
    value? (2 * cs.length + 2) cs = some (v, []) ↔ Spells .value cs v := by
  constructor
  · intro h
    obtain ⟨x, rfl, hx⟩ := (read_sound _).1 cs v [] h
    rwa [List.append_nil]
  · intro h
    have hread := read_complete h [] (2 * cs.length + 2) (by rintro c ⟨⟩) (by omega)
    rwa [List.append_nil] at hread

end VariantStrip.ConfigValue
