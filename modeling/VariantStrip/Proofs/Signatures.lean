/-
Signatures stand for lists of keywords.

The signature of a list of keywords is a text, and a catalog may have such a text in place of a list
(`Catalog.joinedForm`).  If the keywords are words, the list is read back from it:

* `readKeywords?_of_text` — a text is read as its words,
* `Catalog.parse_writeWith_joinedForm` — so a catalog is read back from a text of this form.

A report only shows how many signatures were recorded for a pass.  A tally counts variants with
their lists of keywords (`Tally.Counts`):

* `Tally.Counts.row_eq` — the row on a pass has the signatures of the lists that were recorded,
* `size_ofList_signatures` — as many as there are lists, if the keywords are words,
* `Tally.Counts.process` — and processing a pass records the lists of its candidates.

The main result is `signature_is_read_as_keywords`.
-/
import VariantStrip.Proofs.CatalogText
import VariantStrip.Proofs.ReportSections
import VariantStrip.Proofs.Words

namespace VariantStrip

open Document Text

/-! ### Signatures in catalogs -/

/-- Keywords that are not a list are the words of a text. -/
theorem readKeywords?_of_text {δ : Type} [Document δ] {d : δ} {text : String}
    (hlist : looseList? d = none) (htext : text? d = some text) :
    readKeywords? d = some (words text) := by
  rw [readKeywords?, hlist, htext]
  rfl

namespace Catalog

/-- The form of one text, with spaces between the keywords. -/
def joinedForm (keywords : List String) : Tree := .text (signature keywords)

theorem keywordsReadBack_joinedForm {δ : Type} [Document δ] [Presents δ]
    (htext : ∀ level s, looseList? (Presents.ofTree level (.text s) : δ) = none)
    {keywords : List String} (hwords : ∀ k ∈ keywords, IsWord k) :
    KeywordsReadBack δ joinedForm keywords := by
  intro level
  rw [joinedForm, readKeywords?_of_text (htext level _) (Presents.text?_ofTree level _),
    words_signature hwords]

/-- **Catalogs with signatures.**  If the keywords are words, the catalog is read back. -/
theorem parse_writeWith_joinedForm (format : Format) {c : Catalog}
    (hwords : ∀ s ∈ c.shaders, ∀ v ∈ s.variants, ∀ k ∈ v.keywords, IsWord k) :
    parse format (c.writeWith joinedForm format) = .ok c :=
  parse_writeWith (fun keywords => .text (signature keywords))
    (fun s hs v hv => keywordsReadBack_joinedForm (fun _ _ => rfl) (hwords s hs v hv))
    (fun s hs v hv => keywordsReadBack_joinedForm (fun _ _ => rfl) (hwords s hs v hv)) format

end Catalog

/-! ### Signatures of different lists -/

/-- **There are as many signatures as lists**, if the lists are lists of words. -/
theorem size_ofList_signatures {kss : List (List String)}
    (hwords : ∀ ks ∈ kss, ∀ k ∈ ks, IsWord k) :
    (StringSet.ofList (kss.map signature)).size = kss.toFinset.card := by
  have himage : (kss.map signature).toFinset = kss.toFinset.image signature := by
    ext s
    simp only [List.mem_toFinset, List.mem_map, Finset.mem_image]
  have hinjective : Set.InjOn signature (kss.toFinset : Set (List String)) :=
    injOn_signature.mono fun ks hks => hwords ks (List.mem_toFinset.mp hks)
  rw [← StringSet.card_toFinset, StringSet.toFinset_ofList, himage,
    Finset.card_image_of_injOn hinjective]

/-! ### Variants that are counted -/

/-- A variant that was recorded under a key, and whether it was kept. -/
structure CountedVariant where
  key : String
  keywords : List String
  kept : Bool

namespace CountedVariant

/-- What is recorded of a variant. -/
def decision (v : CountedVariant) : String × Bool := (signature v.keywords, v.kept)

/-- The lists of keywords that were recorded under a key, kept or stripped. -/
def keywordsOf (vs : List CountedVariant) (key : String) (kept : Bool) : List (List String) :=
  ((vs.filter (·.key == key)).filter (·.kept == kept)).map (·.keywords)

/-- What was decided under a key. -/
def decisionsOf (vs : List CountedVariant) (key : String) : List (String × Bool) :=
  (vs.filter (·.key == key)).map decision

theorem decisionsOf_append (vs ws : List CountedVariant) (key : String) :
    decisionsOf (vs ++ ws) key = decisionsOf vs key ++ decisionsOf ws key := by
  rw [decisionsOf, List.filter_append, List.map_append, decisionsOf, decisionsOf]

theorem decisionsOf_singleton (v : CountedVariant) (key : String) :
    decisionsOf [v] key = if key = v.key then [v.decision] else [] := by
  by_cases h : key = v.key
  · simp [decisionsOf, h]
  · simp [decisionsOf, h, Ne.symm h]

/-- The decisions of one outcome are the signatures of the lists. -/
theorem map_fst_decisionsOf (vs : List CountedVariant) (key : String) (kept : Bool) :
    ((decisionsOf vs key).filter fun d => d.2 == kept).map (·.1) =
      (keywordsOf vs key kept).map signature := by
  rw [decisionsOf, keywordsOf, List.filter_map, List.map_map, List.map_map]
  rfl

end CountedVariant

namespace Tally

open CountedVariant (keywordsOf)

/-- The tallies that counting leads to, with the variants that have been recorded since the last
start, in order. -/
inductive Counts : List CountedVariant → Tally → Prop
  | start : Counts [] {}
  | slot {vs : List CountedVariant} {t : Tally} (h : Counts vs t) (key : String) :
    Counts vs (t.slot key).2
  /-- A variant is recorded in the entry of a key. -/
  | record {vs : List CountedVariant} {t : Tally} (h : Counts vs t) {slot : Nat} {key : String}
    (hslot : t.passKeys[slot]? = some key) (keywords : List String) (kept : Bool) :
    Counts (vs ++ [⟨key, keywords, kept⟩]) (t.record slot (signature keywords) kept)
  | addStripTime {vs : List CountedVariant} {t : Tally} (h : Counts vs t) (micros : Nat) :
    Counts vs (t.addStripTime micros)
  | merge {vs ws : List CountedVariant} {t u : Tally} (h : Counts vs t) (h' : Counts ws u) :
    Counts (vs ++ ws) (t.merge u)

theorem Counts.exists_reached {vs : List CountedVariant} {t : Tally} (h : t.Counts vs) :
    ∃ seen, t.Reached seen := by
  induction h with
  | start => exact ⟨_, .start⟩
  | slot _ key ih =>
    obtain ⟨seen, ht⟩ := ih
    exact ⟨_, ht.slot key⟩
  | record _ hslot keywords kept ih =>
    obtain ⟨seen, ht⟩ := ih
    obtain ⟨hlt, -⟩ := List.getElem?_eq_some_iff.mp hslot
    rw [passKeys, List.length_map] at hlt
    exact ⟨_, ht.record hlt _ kept⟩
  | addStripTime _ micros ih =>
    obtain ⟨seen, ht⟩ := ih
    exact ⟨_, ht.addStripTime micros⟩
  | merge _ _ ih ih' =>
    obtain ⟨seen, ht⟩ := ih
    obtain ⟨seen', hu⟩ := ih'
    exact ⟨_, ht.merge hu⟩

/-- **What has been recorded** under a key are the decisions about the variants under it. -/
theorem Counts.exists_records {vs : List CountedVariant} {t : Tally} (h : t.Counts vs) :
    ∃ rs, t.untimed = ofRecords rs ∧
      ∀ key, PassRecord.decisionsOf rs key = CountedVariant.decisionsOf vs key := by
  induction h with
  | start => exact ⟨[], rfl, fun _ => rfl⟩
  | @slot vs t _ key ih =>
    obtain ⟨rs, ht, hdecisions⟩ := ih
    refine ⟨rs ++ [⟨key, []⟩], untimed_slot ht key, fun k => ?_⟩
    rw [PassRecord.decisionsOf_append, PassRecord.decisionsOf_singleton, hdecisions, ite_self,
      List.append_nil]
  | @record vs t _ slot key hslot keywords kept ih =>
    obtain ⟨rs, ht, hdecisions⟩ := ih
    refine ⟨rs ++ [⟨key, [(signature keywords, kept)]⟩], untimed_record ht hslot _ kept,
      fun k => ?_⟩
    rw [PassRecord.decisionsOf_append, PassRecord.decisionsOf_singleton, hdecisions,
      CountedVariant.decisionsOf_append, CountedVariant.decisionsOf_singleton]
    rfl
  | addStripTime _ _ ih => exact ih
  | @merge vs ws t u _ _ ih ih' =>
    obtain ⟨rs, ht, hdecisions⟩ := ih
    obtain ⟨ss, hu, hdecisions'⟩ := ih'
    refine ⟨rs ++ ss, untimed_merge ht hu, fun k => ?_⟩
    rw [PassRecord.decisionsOf_append, hdecisions, hdecisions', CountedVariant.decisionsOf_append]

theorem Counts.entry?_getD {vs : List CountedVariant} {t : Tally} (h : t.Counts vs) (key : String) :
    (t.entry? key).getD {} = .ofDecisions (CountedVariant.decisionsOf vs key) := by
  obtain ⟨rs, ht, hdecisions⟩ := h.exists_records
  have hentry : t.entry? key = Tally.entry? (ofRecords rs) key := by
    rw [← ht]
    rfl
  rw [hentry, entry?_ofRecords, ← hdecisions]
  by_cases hkey : key ∈ PassRecord.keys rs
  · rw [if_pos hkey, Option.getD_some]
  · rw [if_neg hkey, PassRecord.decisionsOf_eq_nil hkey]
    rfl

/-- **The row on a pass** counts the lists that were recorded under its key, and has their
signatures. -/
theorem Counts.row_eq {vs : List CountedVariant} {t : Tally} (h : t.Counts vs) (kept : Bool)
    (key : String) :
    t.row kept key = ⟨key, (keywordsOf vs key kept).length,
      .ofList ((keywordsOf vs key kept).map signature)⟩ := by
  rw [row, SectionRow.ofPass, h.entry?_getD, PassTally.count_ofDecisions,
    PassTally.signatures_ofDecisions, List.countP_eq_length_filter, ← List.length_map (f := (·.1)),
    CountedVariant.map_fst_decisionsOf, List.length_map]

/-- There is one row on a pass, if a variant has been recorded for it. -/
theorem Counts.filter_rows {vs : List CountedVariant} {t : Tally} (h : t.Counts vs) {kept : Bool}
    {key : String} (hsome : keywordsOf vs key kept ≠ []) (buildTime : Nat)
    (options : ReportOptions) (kind : BuildKind) :
    ((Report.ofTally t buildTime options kind).rows kept).filter (·.key == key) =
      [t.row kept key] := by
  obtain ⟨seen, hreached⟩ := h.exists_reached
  have hcount : (t.row kept key).count ≠ 0 := by
    rw [h.row_eq, Ne, List.length_eq_zero_iff]
    exact hsome
  have hkey : key ∈ seen.eraseDups := by
    by_contra hnew
    -- A key without an entry has a row without variants.
    have hentries : t.passKeys = seen.eraseDups := by
      rw [passKeys, hreached.agrees.entries, List.map_map]
      exact List.map_id _
    have hnone : t.entry? key = none := lookup_eq_none_of_not_mem (hentries ▸ hnew)
    rw [row, hnone] at hcount
    exact hcount (by cases kept <;> rfl)
  have hmem : key ∈ seen.eraseDups.filter fun key => (t.row kept key).count ≠ 0 :=
    List.mem_filter.mpr ⟨hkey, decide_eq_true hcount⟩
  have hfilter (ks : List String) :
      (ks.map (t.row kept)).filter (·.key == key) = (ks.filter (· == key)).map (t.row kept) := by
    rw [List.filter_map]
    rfl
  rw [hreached.rows_ofTally, hfilter, List.filter_beq,
    List.count_eq_one_of_mem ((nodup_eraseDups seen).filter _) hmem]
  rfl

/-! ### Processing a pass -/

theorem getElem?_passKeys_slot (t : Tally) (key : String) :
    (t.slot key).2.passKeys[(t.slot key).1]? = some key := by
  have hmem : key ∈ (t.opened key).map (·.1) := by
    rw [map_fst_opened]
    split
    · assumption
    · exact List.mem_append_right _ List.mem_cons_self
  rw [slot_eq, ← idxOf_opened (.inl rfl)]
  exact List.getElem?_idxOf hmem

/-- Variants are recorded one after the other in the entry of a key. -/
theorem Counts.foldl_record {vs : List CountedVariant} {t : Tally} (h : t.Counts vs) {slot : Nat}
    {key : String} (hslot : t.passKeys[slot]? = some key) (xs : List Candidate)
    (keeps : Candidate → Bool) :
    ((xs.map fun x => (signature x.keywords, keeps x)).foldl
        (fun t d => t.record slot d.1 d.2) t).Counts
      (vs ++ xs.map fun x => ⟨key, x.keywords, keeps x⟩) := by
  induction xs generalizing vs t with
  | nil => rwa [List.map_nil, List.append_nil]
  | cons x xs ih =>
    -- Recording changes no key, so the entry stays where it is.
    have hkeys : (t.record slot (signature x.keywords) (keeps x)).passKeys = t.passKeys :=
      map_fst_modify (fun p => p.record (signature x.keywords) (keeps x)) slot t.entries
    have hrest := ih (h.record hslot x.keywords (keeps x)) (by rwa [hkeys])
    rwa [List.append_assoc] at hrest

end Tally

/-- **Processing a pass** records the lists of keywords of its candidates under its key. -/
theorem Tally.Counts.process {vs : List CountedVariant} {t : Tally} (h : t.Counts vs) (e : Engine)
    (host : Host) (shader : ShaderId) (snippet : Snippet) (xs : List Candidate) :
    (e.process host shader snippet xs t).value.2.2.Counts
      (vs ++ xs.map fun x => ⟨Engine.keyOf host shader snippet, x.keywords,
        e.keeps host shader snippet x⟩) := by
  rw [Engine.value_process_slot]
  exact (h.slot _).foldl_record (t.getElem?_passKeys_slot _) xs _

open CountedVariant (keywordsOf) in
/-- **Signatures are read as the lists of keywords** that they stand for.

* A signature is read as its list of keywords, in order and with repetitions, if and only if the
  keywords are words.
* So keywords may be written in a catalog as one text in place of a list: in documents of any kind,
  and in the texts of both formats.
* What is shown of a set of words is read as its members in order, and they make the set again.
* Lists of words with the same signature are the same.
* A tally counts variants with their lists of keywords.  If words were recorded for a pass, kept or
  stripped, then the section of a report has one row on the pass, and the combinations that it shows
  are as many as there are lists without repetitions.  Processing a pass records the lists of its
  candidates under its key. -/
theorem signature_is_read_as_keywords :
    (∀ ks, words (signature ks) = ks ↔ ∀ k ∈ ks, IsWord k) ∧
      (∀ ks : List String, (∀ k ∈ ks, IsWord k) →
        ∀ (δ : Type) [Document δ] (d : δ), looseList? d = none → text? d = some (signature ks) →
          readKeywords? d = some ks) ∧
      (∀ (format : Format) (c : Catalog),
        (∀ s ∈ c.shaders, ∀ v ∈ s.variants, ∀ k ∈ v.keywords, IsWord k) →
          Catalog.parse format (c.writeWith Catalog.joinedForm format) = .ok c) ∧
      (∀ s : StringSet, (∀ k ∈ s, IsWord k) →
        words s.display = s.toList ∧ StringSet.ofList (words s.display) = s) ∧
      Set.InjOn signature {ks | ∀ k ∈ ks, IsWord k} ∧
      ∀ (vs : List CountedVariant) (t : Tally), t.Counts vs →
        (∀ (buildTime : Nat) (options : ReportOptions) (kind : BuildKind) (kept : Bool)
            (key : String),
          let r := Report.ofTally t buildTime options kind
          let kss := keywordsOf vs key kept
          kss ≠ [] → (∀ ks ∈ kss, ∀ k ∈ ks, IsWord k) →
            ∃ row : SectionRow, (r.rows kept).filter (·.key == key) = [row] ∧
              row.summary ∈ r.lines ∧
              row.summary =
                s!"{key} [{kss.length} variants | {kss.toFinset.card} combinations]") ∧
        ∀ (e : Engine) (host : Host) (shader : ShaderId) (snippet : Snippet)
            (xs : List Candidate),
          (e.process host shader snippet xs t).value.2.2.Counts
            (vs ++ xs.map fun x => ⟨Engine.keyOf host shader snippet, x.keywords,
              e.keeps host shader snippet x⟩) := by
  refine ⟨fun ks => words_signature_iff, fun ks hks δ _ d hlist htext => ?_,
    fun format c hc => Catalog.parse_writeWith_joinedForm format hc, fun s hs => ?_,
    injOn_signature, fun vs t h => ⟨?_, h.process⟩⟩
  · rw [readKeywords?_of_text hlist htext, words_signature hks]
  · have hread : words s.display = s.toList := StringSet.words_display hs
    refine ⟨hread, StringSet.ext_of_mem fun k => ?_⟩
    rw [hread, StringSet.mem_ofList, StringSet.mem_def]
  · intro buildTime options kind kept key r kss hsome hwords
    have hrows := h.filter_rows hsome buildTime options kind
    have hmem : t.row kept key ∈ (r.rows kept).filter (·.key == key) := by
      rw [hrows]
      exact List.mem_singleton_self _
    refine ⟨t.row kept key, hrows, Report.summary_mem_lines (List.mem_filter.mp hmem).1, ?_⟩
    rw [SectionRow.summary, h.row_eq, ← size_ofList_signatures hwords]

/-- A catalog with a keyword twice, and with a variant without keywords. -/
def marshCatalog : Catalog := ⟨[⟨"Marsh", [⟨.normal, ["FOG", "_WET", "FOG"]⟩, ⟨.normal, []⟩]⟩]⟩

/-- A host with one shader. -/
def marshHost : Host := .ofList [{ name := "Marsh" }]

/-- One variant twice, and one with the same keywords in another order. -/
def marshCandidates : List Candidate :=
  [⟨["FOG", "_WET"], .d3d, .tier1⟩, ⟨["FOG", "_WET"], .d3d, .tier2⟩,
    ⟨["_WET", "FOG"], .d3d, .tier1⟩]

/-- A keyword with a space in it is read as two. -/
theorem signature_is_read_as_keywords_marsh :
    words (signature ["FOG", "_WET", "FOG"]) = ["FOG", "_WET", "FOG"] ∧
      words (signature ["FOG _WET"]) ≠ ["FOG _WET"] ∧
      Catalog.parse .ron (marshCatalog.writeWith Catalog.joinedForm .ron) = .ok marshCatalog ∧
      "Marsh::Normal::P [3 variants | 2 combinations]" ∈
        (Report.ofTally
          (({ rules := [] } : Engine).process marshHost ⟨0⟩ ⟨.normal, "P"⟩ marshCandidates
            {}).value.2.2 0 {} .player).lines := by
  obtain ⟨hread, -, hcatalog, -, -, hcounts⟩ := signature_is_read_as_keywords
  obtain ⟨-, hprocess⟩ := hcounts [] {} .start
  obtain ⟨hrows, -⟩ := hcounts _ _
    (hprocess { rules := [] } marshHost ⟨0⟩ ⟨.normal, "P"⟩ marshCandidates)
  obtain ⟨row, -, hline, hsummary⟩ := hrows 0 {} .player true "Marsh::Normal::P"
    (by decide +kernel) (by decide +kernel)
  refine ⟨(hread _).mpr (by decide), mt (hread _).mp (by decide), hcatalog .ron _ (by decide), ?_⟩
  rw [hsummary] at hline
  exact hline

end VariantStrip
