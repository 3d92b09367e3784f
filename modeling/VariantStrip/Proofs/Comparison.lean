/-
Plain comparisons of texts.

A plain filter compares lists of characters as wholes (`Comparison.Relates`): for equality, or for
one being a prefix, a suffix or an infix of the other.

* `Comparison.relates_utf8_iff` — it makes no difference whether the characters are compared or the
  bytes that encode them, since no character is encoded by an end of the bytes of another one:
  bytes that start a character start one wherever they stand (`utf8_split`),
* `Comparison.relates_map_iff` — folding both texts first and comparing then is comparing the
  characters position by position.

The main result is `ignoring_case_positionwise`.
-/
import Mathlib.Data.List.Forall2
import VariantStrip.Matcher
import VariantStrip.Pattern.Estimate

namespace VariantStrip

/-! ### Comparisons as relations -/

theorem occursIn_iff {pattern text : List Char} :
    occursIn pattern text = true ↔ pattern <:+: text := by
  induction text with
  | nil => simp [occursIn]
  | cons c text ih =>
    rw [occursIn, Bool.or_eq_true, ih, List.isPrefixOf_iff_prefix, List.infix_cons_iff]

namespace Comparison

/-- The filters that compare in this way. -/
def matchType : Comparison → MatchType
  | equals => .equals
  | contains => .contains
  | startsWith => .startsWith
  | endsWith => .endsWith

/-- How a pattern and a text compare as lists. -/
def Relates {α : Type} (pattern text : List α) : Comparison → Prop
  | equals => text = pattern
  | contains => pattern <:+: text
  | startsWith => pattern <+: text
  | endsWith => pattern <:+ text

theorem holds_iff (how : Comparison) (pattern text : List Char) :
    how.holds pattern text = true ↔ how.Relates pattern text := by
  cases how with
  | equals => exact beq_iff_eq
  | contains => exact occursIn_iff
  | startsWith => exact List.isPrefixOf_iff_prefix
  | endsWith => exact List.isSuffixOf_iff_suffix

end Comparison

/-- A plain filter is never malformed. -/
theorem StringFilter.accepts_plain [Pattern.Capacity] (how : Comparison) (pattern text : String)
    (ignoreCase : Bool) :
    StringFilter.accepts { matchType := how.matchType, pattern, ignoreCase } (some text) =
      .ok (how.holds (foldCase ignoreCase pattern.toList) (foldCase ignoreCase text.toList)) := by
  cases how <;> rfl

/-! ### Bytes -/

/-- The bytes that encode a text. -/
def utf8 (text : List Char) : List UInt8 := text.flatMap String.utf8EncodeChar

theorem utf8_append (a b : List Char) : utf8 (a ++ b) = utf8 a ++ utf8 b := List.flatMap_append

theorem utf8_cons (c : Char) (text : List Char) :
    utf8 (c :: text) = String.utf8EncodeChar c ++ utf8 text := List.flatMap_cons

theorem utf8_eq_nil_iff {text : List Char} : utf8 text = [] ↔ text = [] := by
  cases text with
  | nil => exact iff_of_true rfl rfl
  | cons c text =>
    rw [utf8_cons, List.append_eq_nil_iff]
    exact iff_of_false (fun h => String.utf8EncodeChar_ne_nil h.1) (List.cons_ne_nil c text)

theorem toByteArray_utf8 (text : List Char) : (utf8 text).toByteArray = text.utf8Encode := rfl

/-- The bytes of a text start with one that starts a character. -/
theorem isUTF8FirstByte_of_head? {text : List Char} {b : UInt8}
    (hb : (utf8 text).head? = some b) : b.IsUTF8FirstByte := by
  cases text with
  | nil => cases hb
  | cons c text =>
    have hfirst := UInt8.isUTF8FirstByte_getElem_zero_utf8EncodeChar (c := c)
    rw [utf8_cons, List.head?_append_of_ne_nil _ String.utf8EncodeChar_ne_nil,
      List.head?_eq_getElem?] at hb
    obtain ⟨hlt, hb⟩ := List.getElem?_eq_some_iff.mp hb
    rw [← hb]
    exact hfirst

/-- Inside of a character no byte starts one. -/
theorem eq_nil_or_eq_nil_of_utf8EncodeChar {c : Char} {xs ys : List UInt8}
    (h : String.utf8EncodeChar c = xs ++ ys) (hys : ∀ b ∈ ys.head?, b.IsUTF8FirstByte) :
    xs = [] ∨ ys = [] := by
  by_contra hne
  rw [not_or] at hne
  obtain ⟨b, ys, rfl⟩ := List.exists_cons_of_ne_nil hne.2
  have hlt : xs.length < (String.utf8EncodeChar c).length := by
    rw [h, List.length_append, List.length_cons]
    omega
  have hget : (String.utf8EncodeChar c)[xs.length] = b := by
    simp only [h, List.getElem_append_right (Nat.le_refl xs.length), Nat.sub_self,
      List.getElem_cons_zero]
  have hfirst : (String.utf8EncodeChar c)[xs.length].IsUTF8FirstByte := by
    rw [hget]
    exact hys b rfl
  exact hne.1 (List.length_eq_zero_iff.mp (UInt8.isUTF8FirstByte_getElem_utf8EncodeChar.mp hfirst))

/-- A text can be split where a byte starts a character. -/
theorem utf8_split_of_first {text : List Char} {before rest : List UInt8}
    (h : utf8 text = before ++ rest) (hrest : ∀ b ∈ rest.head?, b.IsUTF8FirstByte) :
    ∃ a b, text = a ++ b ∧ before = utf8 a ∧ rest = utf8 b := by
  induction text generalizing before with
  | nil =>
    obtain ⟨rfl, rfl⟩ := List.append_eq_nil_iff.mp h.symm
    exact ⟨[], [], rfl, rfl, rfl⟩
  | cons c text ih =>
    have hcons : String.utf8EncodeChar c ++ utf8 text = before ++ rest := h
    rcases List.append_eq_append_iff.mp hcons with ⟨more, rfl, htext⟩ | ⟨inside, hc, rfl⟩
    · obtain ⟨a, b, rfl, rfl, rfl⟩ := ih htext
      exact ⟨c :: a, b, rfl, rfl, rfl⟩
    · -- The split would be inside of the first character.
      have hinside : ∀ b ∈ inside.head?, b.IsUTF8FirstByte := by
        intro b hb
        refine hrest b ?_
        cases inside with
        | nil => cases hb
        | cons x inside => exact hb
      rcases eq_nil_or_eq_nil_of_utf8EncodeChar hc hinside with rfl | rfl
      · exact ⟨[], c :: text, rfl, rfl, h.symm⟩
      · refine ⟨[c], text, rfl, ?_, rfl⟩
        rw [utf8_cons, hc, List.append_nil]
        exact (List.append_nil before).symm

theorem utf8_prefix {pattern text : List Char} {after : List UInt8}
    (h : utf8 text = utf8 pattern ++ after) : ∃ b, text = pattern ++ b ∧ after = utf8 b := by
  have hbytes : pattern.utf8Encode ++ after.toByteArray = text.utf8Encode := by
    rw [← toByteArray_utf8, ← toByteArray_utf8, h, List.toByteArray_append]
  obtain ⟨b, rfl⟩ := List.isPrefix_of_utf8Encode_append_eq_utf8Encode after.toByteArray hbytes
  rw [utf8_append] at h
  exact ⟨b, rfl, (List.append_cancel_left h).symm⟩

/-- **The bytes of a text hold those of a pattern only where the text holds the pattern.** -/
theorem utf8_split {pattern text : List Char} {before after : List UInt8} (hpattern : pattern ≠ [])
    (h : utf8 text = before ++ utf8 pattern ++ after) :
    ∃ a b, text = a ++ pattern ++ b ∧ before = utf8 a ∧ after = utf8 b := by
  rw [List.append_assoc] at h
  have hne : utf8 pattern ≠ [] := mt utf8_eq_nil_iff.mp hpattern
  have hfirst : ∀ b ∈ (utf8 pattern ++ after).head?, b.IsUTF8FirstByte := by
    intro b hb
    rw [List.head?_append_of_ne_nil _ hne] at hb
    exact isUTF8FirstByte_of_head? hb
  obtain ⟨a, rest, rfl, rfl, hrest⟩ := utf8_split_of_first h hfirst
  obtain ⟨b, rfl, rfl⟩ := utf8_prefix hrest.symm
  exact ⟨a, b, (List.append_assoc _ _ _).symm, rfl, rfl⟩

/-- **Comparing texts is comparing their bytes.** -/
theorem Comparison.relates_utf8_iff (how : Comparison) (pattern text : List Char) :
    how.Relates (utf8 pattern) (utf8 text) ↔ how.Relates pattern text := by
  cases how with
  | equals =>
    constructor
    · intro h
      obtain ⟨b, rfl, hb⟩ := utf8_prefix (h.trans (List.append_nil _).symm)
      rw [utf8_eq_nil_iff.mp hb.symm]
      exact List.append_nil pattern
    · exact fun h => congrArg utf8 h
  | contains =>
    constructor
    · rintro ⟨before, after, h⟩
      by_cases hpattern : pattern = []
      · exact hpattern ▸ List.nil_infix
      · obtain ⟨a, b, rfl, -, -⟩ := utf8_split hpattern h.symm
        exact ⟨a, b, rfl⟩
    · rintro ⟨a, b, rfl⟩
      exact ⟨utf8 a, utf8 b, by rw [utf8_append, utf8_append]⟩
  | startsWith =>
    constructor
    · rintro ⟨after, h⟩
      obtain ⟨b, rfl, -⟩ := utf8_prefix h.symm
      exact ⟨b, rfl⟩
    · rintro ⟨b, rfl⟩
      exact ⟨utf8 b, (utf8_append pattern b).symm⟩
  | endsWith =>
    constructor
    · rintro ⟨before, h⟩
      by_cases hpattern : pattern = []
      · exact hpattern ▸ List.nil_suffix
      · obtain ⟨a, b, rfl, -, hb⟩ := utf8_split hpattern (h.symm.trans (List.append_nil _).symm)
        rw [utf8_eq_nil_iff.mp hb.symm, List.append_nil]
        exact List.suffix_append a pattern
    · rintro ⟨a, rfl⟩
      exact ⟨utf8 a, (utf8_append a pattern).symm⟩

/-! ### Position by position -/

/-- The characters of a text from a place on are there, as many as a pattern has, and each is
related to that of the pattern. -/
def StandsAt (R : Char → Char → Prop) (pattern text : List Char) (place : Nat) : Prop :=
  List.Forall₂ R pattern ((text.drop place).take pattern.length)

/-- How a pattern and a text compare position by position. -/
def Comparison.Positionwise (R : Char → Char → Prop) (pattern text : List Char) :
    Comparison → Prop
  | equals => text.length = pattern.length ∧ StandsAt R pattern text 0
  | contains => ∃ place, StandsAt R pattern text place
  | startsWith => StandsAt R pattern text 0
  | endsWith =>
    pattern.length ≤ text.length ∧ StandsAt R pattern text (text.length - pattern.length)

section

variable {f : Char → Char} {pattern text : List Char}

theorem map_eq_map_iff {a b : List Char} :
    a.map f = b.map f ↔ List.Forall₂ (fun x y => f x = f y) a b := by
  rw [← List.forall₂_eq_eq_eq, List.forall₂_map_left_iff, List.forall₂_map_right_iff]

theorem standsAt_iff {place : Nat} :
    StandsAt (fun a b => f a = f b) pattern text place ↔
      pattern.map f = ((text.map f).drop place).take pattern.length := by
  rw [StandsAt, ← map_eq_map_iff, List.map_take, List.map_drop]

/-- **Folding first and comparing then is comparing position by position.** -/
theorem Comparison.relates_map_iff (how : Comparison) :
    how.Relates (pattern.map f) (text.map f) ↔
      how.Positionwise (fun a b => f a = f b) pattern text := by
  cases how with
  | equals =>
    rw [Relates, Positionwise, standsAt_iff, List.drop_zero]
    constructor
    · intro h
      have hlength : text.length = pattern.length := by simpa using congrArg List.length h
      exact ⟨hlength, by rw [← h, List.take_of_length_le (by simp [hlength])]⟩
    · rintro ⟨hlength, h⟩
      rw [h, List.take_of_length_le (by simp [hlength])]
  | contains =>
    simp only [Relates, Positionwise, standsAt_iff]
    constructor
    · rintro ⟨before, after, h⟩
      refine ⟨before.length, ?_⟩
      rw [← h, List.append_assoc, List.drop_left]
      exact (List.take_left' (List.length_map f)).symm
    · rintro ⟨place, h⟩
      rw [h]
      exact (List.take_prefix _ _).isInfix.trans (List.drop_suffix _ _).isInfix
  | startsWith =>
    rw [Relates, Positionwise, standsAt_iff, List.drop_zero, List.prefix_iff_eq_take,
      List.length_map]
  | endsWith =>
    rw [Relates, Positionwise, standsAt_iff]
    constructor
    · rintro ⟨before, h⟩
      have hlength : before.length + pattern.length = text.length := by
        simpa using congrArg List.length h
      have hplace : text.length - pattern.length = before.length := by omega
      refine ⟨by omega, ?_⟩
      rw [← h, hplace, List.drop_left, List.take_of_length_le (by simp)]
    · rintro ⟨hle, h⟩
      rw [List.take_of_length_le (by simp; omega)] at h
      rw [h]
      exact List.drop_suffix _ _

end

/-- Two characters are equal when case is ignored: their uppercase forms are, or the characters
themselves where an uppercase form is no single character. -/
def SameUpper (a b : Char) : Prop := Unicode.simpleUpper a = Unicode.simpleUpper b

/-- **Case is ignored character by character.**  A plain filter that ignores case always answers,
and it accepts a text if and only if the characters of the text that it asks about are there and
are equal to those of the pattern position by position.  It is the same to compare the bytes of the
folded texts.  And where these bytes hold those of a pattern with characters, the text holds equal
characters: no match starts or ends inside of a character. -/
theorem ignoring_case_positionwise [Pattern.Capacity] (how : Comparison) (pattern text : String) :
    (∃ accepted,
      StringFilter.accepts { matchType := how.matchType, pattern, ignoreCase := true } (some text) =
        .ok accepted ∧
      (accepted = true ↔ how.Positionwise SameUpper pattern.toList text.toList) ∧
      (accepted = true ↔
        how.Relates (utf8 (foldCase true pattern.toList)) (utf8 (foldCase true text.toList)))) ∧
    ∀ before after, pattern ≠ "" →
      utf8 (foldCase true text.toList) = before ++ utf8 (foldCase true pattern.toList) ++ after →
      ∃ a held b, text.toList = a ++ held ++ b ∧ List.Forall₂ SameUpper pattern.toList held ∧
        before = utf8 (foldCase true a) ∧ after = utf8 (foldCase true b) := by
  refine ⟨⟨_, StringFilter.accepts_plain how pattern text true, ?_, ?_⟩, ?_⟩
  · rw [Comparison.holds_iff]
    exact Comparison.relates_map_iff how
  · rw [Comparison.holds_iff, Comparison.relates_utf8_iff]
  · intro before after hpattern h
    have hne : foldCase true pattern.toList ≠ [] := by
      simpa [foldCase] using hpattern
    obtain ⟨start, rest, hsplit, rfl, rfl⟩ := utf8_split hne h
    obtain ⟨front, b, htext, hfront, rfl⟩ := List.map_eq_append_iff.mp hsplit
    obtain ⟨a, held, rfl, rfl, hheld⟩ := List.map_eq_append_iff.mp hfront
    exact ⟨a, held, b, htext, map_eq_map_iff.mp hheld.symm, rfl, rfl⟩

/-- Folding makes a dotless `ı` shorter and a turned `ɐ` longer, and leaves `ß` alone. -/
theorem ignoring_case_positionwise_turned :
    "iⱯ" ≠ "" ∧
      utf8 (foldCase true "xıɐß".toList) =
        utf8 ['X'] ++ utf8 (foldCase true "iⱯ".toList) ++ utf8 ['ß'] ∧
      ∃ a held b, "xıɐß".toList = a ++ held ++ b ∧ List.Forall₂ SameUpper "iⱯ".toList held ∧
        utf8 ['X'] = utf8 (foldCase true a) ∧ utf8 ['ß'] = utf8 (foldCase true b) := by
  have hpattern : "iⱯ" ≠ "" := by decide
  have hbytes : utf8 (foldCase true "xıɐß".toList) =
      utf8 ['X'] ++ utf8 (foldCase true "iⱯ".toList) ++ utf8 ['ß'] := by
    decide +kernel
  exact ⟨hpattern, hbytes,
    (ignoring_case_positionwise .contains "iⱯ" "xıɐß").2 _ _ hpattern hbytes⟩

end VariantStrip
