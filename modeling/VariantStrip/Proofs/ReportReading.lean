/-
Reading a report back.

The lines of a report tell the totals and what the summary lines say, whatever characters there are
in the keys:

* `SectionRow.figures_of_summary` — a summary line is read from its end, where the numbers stand,
* `SectionRow.rows_of_lines` — a section is read row by row; a summary line tells how many lines
  belong to its row, and a section ends where a blank line stands in place of a summary line,
* `SectionRow.signatures_of_details` — the lines on signatures tell the signatures, if these are
  legible.

The main result is `report_reads_back`.
-/
import VariantStrip.Proofs.ReportSections
import VariantStrip.Proofs.Separated

namespace VariantStrip

/-! ### Numbers -/

theorem padZeros_zero (n : Nat) : padZeros 0 n = toString n := by
  rw [padZeros, Nat.zero_sub]
  exact String.empty_append

theorem not_mem_toString {c : Char} (hc : c.isDigit = false) (n : Nat) :
    c ∉ (toString n).toList := by
  rw [← padZeros_zero]
  exact not_mem_padZeros hc 0 n

theorem toString_injective : Function.Injective (toString : Nat → String) := by
  intro m n h
  rw [← padZeros_zero, ← padZeros_zero] at h
  exact padZeros_injective 0 h

/-! ### Summary lines -/

namespace SectionRow

/-- What a summary line says: the key, the number of variants and that of signatures. -/
def figures (row : SectionRow) : String × Nat × Nat :=
  (row.key, row.count, row.signatures.size)

theorem reverse_summary (row : SectionRow) : row.summary.toList.reverse =
    "]snoitanibmoc ".toList ++ ((toString row.signatures.size).toList.reverse ++
      ' ' :: ("| stnairav ".toList ++ ((toString row.count).toList.reverse ++
        '[' :: (' ' :: row.key.toList.reverse)))) := by
  have hsummary : row.summary = row.key ++ " [" ++ toString row.count ++ " variants | " ++
      toString row.signatures.size ++ " combinations]" := rfl
  rw [hsummary]
  simp

/-- **What a summary line says** can be read from it. -/
theorem figures_of_summary {row row' : SectionRow} (h : row.summary = row'.summary) :
    row.figures = row'.figures := by
  have hdigits {c : Char} (hc : c.isDigit = false) (n : Nat) :
      c ∉ (toString n).toList.reverse := by
    rw [List.mem_reverse]
    exact not_mem_toString hc n
  -- A key may contain anything, so the line is read from its end.
  have hreverse := congrArg (fun s : String => s.toList.reverse) h
  simp only [reverse_summary] at hreverse
  obtain ⟨hsize, hrest⟩ := eq_of_append_separator (hdigits rfl _) (hdigits rfl _)
    (List.append_cancel_left hreverse)
  obtain ⟨hcount, hkey⟩ := eq_of_append_separator (hdigits rfl _) (hdigits rfl _)
    (List.append_cancel_left hrest)
  rw [figures, figures, eq_of_reverse_toList (List.cons.inj hkey).2,
    toString_injective (eq_of_reverse_toList hcount),
    toString_injective (eq_of_reverse_toList hsize)]

theorem summary_ne_empty (row : SectionRow) : row.summary ≠ "" := by
  intro hempty
  have hreverse := row.reverse_summary
  rw [hempty] at hreverse
  cases hreverse

theorem length_details_of_figures {row row' : SectionRow} (h : row.figures = row'.figures) :
    row.details.length = row'.details.length := by
  rw [length_details, length_details]
  exact congrArg (·.2.2) h

/-! ### Sections -/

theorem flatMap_lines_cons (listed : Bool) (row : SectionRow) (rows : List SectionRow)
    (rest : List String) :
    (row :: rows).flatMap (·.lines listed) ++ rest =
      row.summary :: (if listed then row.details ++ [""] else []) ++
        (rows.flatMap (·.lines listed) ++ rest) := by
  rw [List.flatMap_cons, lines, List.append_assoc]

/-- **The rows of a section** can be read from its lines, if it is followed by nothing or by a blank
line. -/
theorem rows_of_lines {listed : Bool} {rows rows' : List SectionRow} {rest rest' : List String}
    (hrest : ∀ l ∈ rest.head?, l = "") (hrest' : ∀ l ∈ rest'.head?, l = "")
    (h : rows.flatMap (·.lines listed) ++ rest = rows'.flatMap (·.lines listed) ++ rest') :
    rows.map figures = rows'.map figures ∧
      (listed = true → rows.map details = rows'.map details) ∧ rest = rest' := by
  induction rows generalizing rows' with
  | nil =>
    cases rows' with
    | nil => exact ⟨rfl, fun _ => rfl, h⟩
    | cons row' rows' =>
      -- One section has ended, and the other goes on with a summary line.
      rw [flatMap_lines_cons, List.flatMap_nil, List.nil_append, List.cons_append] at h
      exact absurd (hrest row'.summary (by rw [h]; rfl)) row'.summary_ne_empty
  | cons row rows ih =>
    cases rows' with
    | nil =>
      rw [flatMap_lines_cons, List.flatMap_nil, List.nil_append, List.cons_append] at h
      exact absurd (hrest' row.summary (by rw [← h]; rfl)) row.summary_ne_empty
    | cons row' rows' =>
      rw [flatMap_lines_cons, flatMap_lines_cons, List.cons_append, List.cons_append] at h
      obtain ⟨hsummary, hlines⟩ := List.cons.inj h
      have hfigures := figures_of_summary hsummary
      have hlength := length_details_of_figures hfigures
      cases listed with
      | false =>
        obtain ⟨ihfigures, -, ihrest⟩ := ih hlines
        refine ⟨?_, nofun, ihrest⟩
        rw [List.map_cons, List.map_cons, hfigures, ihfigures]
      | true =>
        -- The summary line tells how many lines come before the next one.
        have hsame : (row.details ++ [""]).length = (row'.details ++ [""]).length := by
          rw [List.length_append, List.length_append, hlength]
        obtain ⟨hdetails, hrows⟩ := List.append_inj hlines hsame
        obtain ⟨ihfigures, ihdetails, ihrest⟩ := ih hrows
        refine ⟨?_, fun hlisted => ?_, ihrest⟩
        · rw [List.map_cons, List.map_cons, hfigures, ihfigures]
        · rw [List.map_cons, List.map_cons, List.append_cancel_right hdetails, ihdetails hlisted]

end SectionRow

/-! ### Signatures -/

namespace Report

/-- Whether a signature is told apart from others by the way it is listed: it is not the name that
is listed for one that cannot be seen, and if it cannot be seen it is empty. -/
structure Legible (signature : String) : Prop where
  ne_name : signature ≠ "<no keywords>"
  eq_empty : signature.toList.all Text.isBlank = true → signature = ""

theorem legible_iff {s : String} :
    Legible s ↔ s ≠ "<no keywords>" ∧ (s.toList.all Text.isBlank = true → s = "") :=
  ⟨fun h => ⟨h.ne_name, h.eq_empty⟩, fun h => ⟨h.1, h.2⟩⟩

instance (s : String) : Decidable (Legible s) := decidable_of_iff _ legible_iff.symm

/-- The signature that a line on a signature is about. -/
def readSignature (line : String) : String :=
  if line = "\t <no keywords>" then "" else String.ofList (line.toList.drop 2)

theorem readSignature_shown {s : String} (hs : Legible s) :
    readSignature ("\t " ++ shownSignature s) = s := by
  rw [shownSignature]
  by_cases hblank : s.toList.all Text.isBlank = true
  · rw [if_pos hblank, hs.eq_empty hblank]
    exact if_pos rfl
  · have hline : "\t " ++ s ≠ "\t <no keywords>" := by
      intro hname
      exact hs.ne_name ((String.append_right_inj "\t ").mp hname)
    rw [if_neg hblank, readSignature, if_neg hline, String.toList_append]
    exact String.ofList_toList

end Report

namespace SectionRow

theorem map_readSignature_details {row : SectionRow}
    (hlegible : ∀ s ∈ row.signatures, Report.Legible s) :
    row.details.map Report.readSignature = row.signatures.toList := by
  rw [details, List.map_map]
  exact (List.map_congr_left fun s hs => Report.readSignature_shown (hlegible s hs)).trans
    (List.map_id _)

/-- **The signatures of the rows** can be read from the lines on them. -/
theorem signatures_of_details {rows rows' : List SectionRow}
    (hlegible : ∀ row ∈ rows ++ rows', ∀ s ∈ row.signatures, Report.Legible s)
    (h : rows.map details = rows'.map details) :
    rows.map (·.signatures) = rows'.map (·.signatures) := by
  have hread (rows : List SectionRow)
      (hlegible : ∀ row ∈ rows, ∀ s ∈ row.signatures, Report.Legible s) :
      (rows.map (·.signatures)).map (·.toList) =
        (rows.map details).map (·.map Report.readSignature) := by
    rw [List.map_map, List.map_map]
    exact List.map_congr_left fun row hrow => (map_readSignature_details (hlegible row hrow)).symm
  refine List.map_injective_iff.mpr StringSet.toList_injective ?_
  rw [hread rows fun row hrow => hlegible row (List.mem_append_left _ hrow), h,
    hread rows' fun row hrow => hlegible row (List.mem_append_right _ hrow)]

end SectionRow

/-! ### Reports -/

namespace Report

/-- Whether the lines of a section list signatures. -/
def listed (r : Report) (kept : Bool) : Bool :=
  if kept then r.options.listIncluded else r.options.listStripped

/-- **The parts of a report** can be read from its lines. -/
theorem parts_of_lines {r r' : Report} (hoptions : r.options = r'.options)
    (h : r.lines = r'.lines) :
    r.included = r'.included ∧ r.stripped = r'.stripped ∧
      ∀ kept, (r.rows kept).map (·.figures) = (r'.rows kept).map (·.figures) ∧
        (r.listed kept = true →
          (r.rows kept).map (·.details) = (r'.rows kept).map (·.details)) := by
  rw [lines_eq_rows, lines_eq_rows, ← hoptions] at h
  simp only [List.append_assoc] at h
  obtain ⟨hheadline, hsections⟩ := List.append_inj h rfl
  have hbegin := List.append_cancel_left (List.append_cancel_left hsections)
  obtain ⟨hincluded, hincluded', hrest⟩ := SectionRow.rows_of_lines (by simp) (by simp) hbegin
  have hend : (r.rows false).flatMap (·.lines r.options.listStripped) ++ [] =
      (r'.rows false).flatMap (·.lines r.options.listStripped) ++ [] := by
    rw [List.append_nil, List.append_nil]
    exact List.append_cancel_left (List.append_cancel_left hrest)
  obtain ⟨hstripped, hstripped', -⟩ := SectionRow.rows_of_lines (by simp) (by simp) hend
  simp only [headline, List.cons.injEq, and_true] at hheadline
  obtain ⟨-, -, htotal, htotal'⟩ := hheadline
  refine ⟨toString_injective ((String.append_right_inj _).mp htotal),
    toString_injective ((String.append_right_inj _).mp htotal'), fun kept => ?_⟩
  cases kept with
  | false => exact ⟨hstripped, hstripped'⟩
  | true => exact ⟨hincluded, hincluded'⟩

end Report

/-- **A report can be read back.**  If two reports with the same options have the same lines, they
have the same totals, and in each section the same keys with the same numbers of variants and of
signatures.  In a section that lists signatures the signatures are the same as well, unless there is
one that is listed like another. -/
theorem report_reads_back {r r' : Report} (hoptions : r.options = r'.options)
    (hlines : r.lines = r'.lines) :
    r.included = r'.included ∧ r.stripped = r'.stripped ∧
      ∀ kept,
        (r.rows kept).map (fun row => (row.key, row.count, row.signatures.size)) =
          (r'.rows kept).map (fun row => (row.key, row.count, row.signatures.size)) ∧
        (r.listed kept = true →
          (∀ row ∈ r.rows kept ++ r'.rows kept, ∀ s ∈ row.signatures, Report.Legible s) →
          (r.rows kept).map (·.signatures) = (r'.rows kept).map (·.signatures)) := by
  obtain ⟨hincluded, hstripped, hrows⟩ := Report.parts_of_lines hoptions hlines
  refine ⟨hincluded, hstripped, fun kept => ?_⟩
  obtain ⟨hfigures, hdetails⟩ := hrows kept
  refine ⟨hfigures, fun hlisted hlegible => ?_⟩
  exact SectionRow.signatures_of_details hlegible (hdetails hlisted)

/-- A key that looks like a summary line.  The reports differ in what they do not show: the time
below a millisecond, the kind of build and the signature that was stripped. -/
theorem report_reads_back_nested_key :
    let key := "Sky [9 variants | 9 combinations]"
    let t := ((({} : Tally).slot key).2.record 0 "FOG" true).record 0 "RAIN" false
    let u := ((({} : Tally).slot key).2.record 0 "FOG" true).record 0 "SNOW" false
    let r := Report.ofTally t 1000 {} .player
    let r' := Report.ofTally u 1500 {} .assetBundles
    r.lines = r'.lines ∧ r.passes ≠ r'.passes ∧
      (r.rows true).map (·.signatures) = (r'.rows true).map (·.signatures) := by
  intro key t u r r'
  have hoptions : r.options = r'.options := rfl
  have hlines : r.lines = r'.lines := by decide
  obtain ⟨-, -, hrows⟩ := report_reads_back hoptions hlines
  have hlegible : ∀ row ∈ r.rows true ++ r'.rows true,
      ∀ s ∈ row.signatures.toList, Report.Legible s := by decide
  exact ⟨hlines, by decide, (hrows true).2 rfl hlegible⟩

end VariantStrip
