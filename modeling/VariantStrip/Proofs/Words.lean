/-
Words, and texts that are made of them.

A text is read as its words, and words are written with single spaces between them (`signature`).
Reading takes any blank character for the end of a word, and drops empty words:

* `Text.wordsFrom_append` — characters that are not blank are added to the current word,
* `Text.isWord_of_mem_words` — so what is read is words,
* `words_signature` — and words that have been written are read, each one in its place.

Only words are read back (`words_signature_iff`), and texts of words are equal only if the words are
(`injOn_signature`).
-/
import Mathlib.Data.Set.Function
import VariantStrip.Text.Blank
import VariantStrip.Variant

namespace VariantStrip

namespace Text

/-- A word: it is not empty, and none of its characters is blank. -/
def IsWord (s : String) : Prop := s ≠ "" ∧ ∀ c ∈ s.toList, isBlank c = false

instance (s : String) : Decidable (IsWord s) :=
  decidable_of_iff (s ≠ "" ∧ s.toList.all (fun c => !isBlank c) = true) (by simp [IsWord])

/-! ### Reading words -/

theorem addWord_of_ne_nil {word : List Char} (hword : word ≠ []) (rest : List String) :
    addWord word rest = String.ofList word :: rest := by
  rw [addWord, if_neg]
  rwa [List.isEmpty_iff]

theorem wordsFrom_append {cs : List Char} (hcs : ∀ c ∈ cs, isBlank c = false)
    (word rest : List Char) : wordsFrom word (cs ++ rest) = wordsFrom (word ++ cs) rest := by
  induction cs generalizing word with
  | nil => rw [List.nil_append, List.append_nil]
  | cons c cs ih =>
    rw [List.forall_mem_cons] at hcs
    rw [List.cons_append, wordsFrom, if_neg (by rw [hcs.1]; exact Bool.false_ne_true), ih hcs.2,
      List.append_assoc, List.singleton_append]

theorem wordsFrom_space (word cs : List Char) :
    wordsFrom word (' ' :: cs) = addWord word (wordsFrom [] cs) := by
  rw [wordsFrom, if_pos (by decide)]

/-- A word that is finished without blank characters is one, unless it is dropped. -/
theorem isWord_or_mem_of_mem_addWord {word : List Char} (hword : ∀ c ∈ word, isBlank c = false)
    {rest : List String} {s : String} (hs : s ∈ addWord word rest) : IsWord s ∨ s ∈ rest := by
  by_cases hnil : word = []
  · rw [hnil] at hs
    exact .inr hs
  · rw [addWord_of_ne_nil hnil, List.mem_cons] at hs
    refine hs.imp_left ?_
    rintro rfl
    rw [IsWord, String.toList_ofList, Ne, String.ofList_eq_empty_iff]
    exact ⟨hnil, hword⟩

theorem isWord_of_mem_wordsFrom {word cs : List Char} (hword : ∀ c ∈ word, isBlank c = false)
    {s : String} (hs : s ∈ wordsFrom word cs) : IsWord s := by
  induction cs generalizing word with
  | nil => exact (isWord_or_mem_of_mem_addWord hword hs).resolve_right List.not_mem_nil
  | cons c cs ih =>
    rw [wordsFrom] at hs
    by_cases hc : isBlank c = true
    · rw [if_pos hc] at hs
      exact (isWord_or_mem_of_mem_addWord hword hs).elim id
        (ih (List.forall_mem_nil _))
    · rw [if_neg hc] at hs
      refine ih ?_ hs
      rw [List.forall_mem_append, List.forall_mem_singleton]
      exact ⟨hword, Bool.eq_false_iff.mpr hc⟩

/-- What is read of a text are words. -/
theorem isWord_of_mem_words {s text : String} (hs : s ∈ words text) : IsWord s :=
  isWord_of_mem_wordsFrom (List.forall_mem_nil _) hs

theorem IsWord.wordsFrom_toList_append {k : String} (hk : IsWord k) (rest : List Char) :
    wordsFrom [] (k.toList ++ rest) = wordsFrom k.toList rest := by
  rw [wordsFrom_append hk.2, List.nil_append]

/-- A word is read up to the end of the text. -/
theorem IsWord.addWord_toList {k : String} (hk : IsWord k) (rest : List String) :
    addWord k.toList rest = k :: rest := by
  rw [addWord_of_ne_nil (mt String.toList_eq_nil_iff.mp hk.1), String.ofList_toList]

end Text

open Text

/-! ### Words with spaces between them -/

theorem toList_signature_cons_cons (k k' : String) (ks : List String) :
    (signature (k :: k' :: ks)).toList = k.toList ++ ' ' :: (signature (k' :: ks)).toList := by
  rw [signature, String.intercalate_cons_cons, String.toList_append, String.toList_append]
  simp [signature]

/-- **Words that have been written are read**, in order and with repetitions. -/
theorem words_signature {ks : List String} (hks : ∀ k ∈ ks, IsWord k) :
    words (signature ks) = ks := by
  induction ks with
  | nil => rfl
  | cons k ks ih =>
    rw [List.forall_mem_cons] at hks
    cases ks with
    | nil =>
      have hread := hks.1.wordsFrom_toList_append []
      rw [words, signature, String.intercalate_singleton]
      rw [List.append_nil] at hread
      rw [hread, wordsFrom, hks.1.addWord_toList]
    | cons k' ks =>
      -- The space after the first word is where it ends, and the rest is read as if it stood alone.
      rw [words, toList_signature_cons_cons, hks.1.wordsFrom_toList_append, wordsFrom_space,
        hks.1.addWord_toList]
      exact congrArg (k :: ·) (ih hks.2)

/-- **Only words** are read back. -/
theorem words_signature_iff {ks : List String} :
    words (signature ks) = ks ↔ ∀ k ∈ ks, IsWord k := by
  refine ⟨fun hread k hk => ?_, words_signature⟩
  rw [← hread] at hk
  exact isWord_of_mem_words hk

/-- Lists of words are read back, so they are not written alike. -/
theorem injOn_signature : Set.InjOn signature {ks | ∀ k ∈ ks, IsWord k} :=
  Set.LeftInvOn.injOn fun _ hks => words_signature hks

/-- A set of words is shown with its members in order. -/
theorem StringSet.words_display {s : StringSet} (hs : ∀ k ∈ s, IsWord k) :
    words s.display = s.toList :=
  words_signature hs

end VariantStrip
