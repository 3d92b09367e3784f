/-
The sections of a report agree with its headline.

A section has one summary line for each pass with variants, which is a row of the report
(`Report.rows`).  The lines of a report are made of its rows (`Report.lines_eq_rows`), and the rows
of the report on a tally that counting has led to are the entries with variants, in the order in
which their keys were first seen (`Tally.Reached.rows_ofTally`).

The main result is `headline_agrees_with_sections`.
-/
import VariantStrip.Proofs.ReachedTally

namespace VariantStrip

/-! ### Rows -/

/-- What a section of a report says of a pass. -/
structure SectionRow where
  key : String
  count : Nat
  signatures : StringSet
  deriving DecidableEq

namespace SectionRow

/-- The summary line of a row. -/
def summary (row : SectionRow) : String :=
  s!"{row.key} [{row.count} variants | {row.signatures.size} combinations]"

/-- The lines on the signatures of a row. -/
def details (row : SectionRow) : List String :=
  row.signatures.toList.map fun s => "\t " ++ Report.shownSignature s

/-- The lines of a row: its summary line, and with details the lines on its signatures and a blank
line. -/
def lines (listed : Bool) (row : SectionRow) : List String :=
  row.summary :: if listed then row.details ++ [""] else []

theorem length_details (row : SectionRow) : row.details.length = row.signatures.size :=
  List.length_map _

/-- The row on one of the outcomes of a pass. -/
def ofPass (kept : Bool) (pass : String × PassTally) : SectionRow :=
  ⟨pass.1, pass.2.count kept, pass.2.signatures kept⟩

/-- A pass has the lines of its row, if it has variants. -/
theorem passLines_eq (listed kept : Bool) (pass : String × PassTally) :
    Report.passLines listed pass.1 (pass.2.count kept) (pass.2.signatures kept) =
      if (ofPass kept pass).count ≠ 0 then (ofPass kept pass).lines listed else [] :=
  (ite_not _ _ _).symm

/-- Rows without variants add nothing to a sum. -/
theorem sum_count_filter (rows : List SectionRow) :
    ((rows.filter (·.count ≠ 0)).map (·.count)).sum = (rows.map (·.count)).sum := by
  induction rows with
  | nil => rfl
  | cons row rows ih =>
    rw [List.map_cons, List.sum_cons, ← ih, List.filter_cons]
    by_cases hzero : row.count = 0
    · simp [hzero]
    · simp [hzero]

end SectionRow

namespace Report

/-- The rows of a section: the passes with variants that were kept, or that were stripped. -/
def rows (r : Report) (kept : Bool) : List SectionRow :=
  (r.passes.map (SectionRow.ofPass kept)).filter (·.count ≠ 0)

theorem flatMap_passLines (r : Report) (listed kept : Bool) :
    (r.passes.flatMap fun pass =>
        passLines listed pass.1 (pass.2.count kept) (pass.2.signatures kept)) =
      (r.rows kept).flatMap (·.lines listed) := by
  rw [rows]
  induction r.passes with
  | nil => rfl
  | cons pass passes ih =>
    rw [List.flatMap_cons, ih, SectionRow.passLines_eq, List.map_cons, List.filter_cons]
    by_cases hzero : (SectionRow.ofPass kept pass).count = 0
    · simp [hzero]
    · simp [hzero]

/-- **The lines of a report** are made of the rows of its sections. -/
theorem lines_eq_rows (r : Report) :
    r.lines = r.headline ++ [""] ++
      (sectionTitle "INCLUDED SHADER VARIANTS" ++
        (r.rows true).flatMap (·.lines r.options.listIncluded)) ++ [""] ++
      (sectionTitle "STRIPPED SHADER VARIANTS" ++
        (r.rows false).flatMap (·.lines r.options.listStripped)) := by
  have hincluded := r.flatMap_passLines r.options.listIncluded true
  have hstripped := r.flatMap_passLines r.options.listStripped false
  rw [lines, includedSection, strippedSection, ← hincluded, ← hstripped]
  rfl

/-- The summary lines of the rows are lines of the report. -/
theorem summary_mem_lines {r : Report} {kept : Bool} {row : SectionRow} (hrow : row ∈ r.rows kept) :
    row.summary ∈ r.lines := by
  have hmem (listed : Bool) : row.summary ∈ (r.rows kept).flatMap (·.lines listed) :=
    List.mem_flatMap.mpr ⟨row, hrow, List.mem_cons_self⟩
  rw [lines_eq_rows]
  cases kept with
  | true =>
    exact List.mem_append_left _ (List.mem_append_left _ (List.mem_append_right _
      (List.mem_append_right _ (hmem _))))
  | false => exact List.mem_append_right _ (List.mem_append_right _ (hmem _))

end Report

/-! ### The report on a tally -/

namespace Tally

/-- The row on one of the outcomes of the pass with a key. -/
def row (t : Tally) (kept : Bool) (key : String) : SectionRow :=
  .ofPass kept (key, (t.entry? key).getD {})

variable {seen : List String} {t : Tally} (h : t.Reached seen)
  (buildTime : Nat) (options : ReportOptions) (kind : BuildKind) (kept : Bool)

include h

/-- **The rows** are those of the keys with variants, in the order in which they were first seen. -/
theorem Reached.rows_ofTally :
    (Report.ofTally t buildTime options kind).rows kept =
      (seen.eraseDups.filter fun key => (t.row kept key).count ≠ 0).map (t.row kept) := by
  have hpasses : (Report.ofTally t buildTime options kind).passes =
      seen.eraseDups.map fun key => (key, (t.entry? key).getD {}) := h.agrees.entries
  rw [Report.rows, hpasses, List.map_map, List.filter_map]
  rfl

/-- The totals are the sums over the rows. -/
theorem Reached.sum_rows_ofTally :
    (((Report.ofTally t buildTime options kind).rows kept).map (·.count)).sum = t.total kept := by
  rw [h.agrees.total, Report.rows, SectionRow.sum_count_filter, List.map_map]
  rfl

/-- The numbers in a row fit. -/
theorem Reached.size_signatures_rows {row : SectionRow}
    (hrow : row ∈ (Report.ofTally t buildTime options kind).rows kept) :
    1 ≤ row.signatures.size ∧ row.signatures.size ≤ row.count := by
  obtain ⟨hmem, hcount⟩ := List.mem_filter.mp hrow
  obtain ⟨pass, hpass, rfl⟩ := List.mem_map.mp hmem
  have hfits := h.agrees.fits pass hpass kept
  exact ⟨hfits.pos (of_decide_eq_true hcount), hfits.le⟩

end Tally

/-! ### The whole report -/

/-- **The headline of a report agrees with its sections.**  Let counting, in any order, lead to a
tally.  In the report on it

* the totals are the sums of the counts on the summary lines of the two sections,
* the sections have one summary line for each key with variants, in the order in which the keys were
  first seen,
* the number of signatures on a summary line is at least one and at most the number of variants,
* with details as many lines follow, for the signatures in ascending order, and a blank line, and
  without details none. -/
theorem headline_agrees_with_sections {seen : List String} {t : Tally} (h : t.Reached seen)
    (buildTime : Nat) (options : ReportOptions) (kind : BuildKind) :
    let r := Report.ofTally t buildTime options kind
    r.lines =
        [s!"Build Duration: {buildTime / 1000}ms",
          s!"Shader Stripping Duration: {t.stripTime / 1000}ms",
          s!"Total shaders included: {((r.rows true).map (·.count)).sum}",
          s!"Total shaders stripped: {((r.rows false).map (·.count)).sum}",
          ""] ++
        (Report.sectionTitle "INCLUDED SHADER VARIANTS" ++
          (r.rows true).flatMap (·.lines options.listIncluded)) ++ [""] ++
        (Report.sectionTitle "STRIPPED SHADER VARIANTS" ++
          (r.rows false).flatMap (·.lines options.listStripped)) ∧
      ∀ kept,
        r.rows kept =
          (seen.eraseDups.filter fun key => (t.row kept key).count ≠ 0).map (t.row kept) ∧
        ∀ row ∈ r.rows kept,
          1 ≤ row.signatures.size ∧ row.signatures.size ≤ row.count ∧
            row.details.length = row.signatures.size ∧
            row.signatures.toList.Pairwise (· < ·) := by
  intro r
  have hsum (kept : Bool) : ((r.rows kept).map (·.count)).sum = t.total kept :=
    h.sum_rows_ofTally buildTime options kind kept
  refine ⟨?_, fun kept => ⟨?_, fun row hrow => ?_⟩⟩
  · -- The headline shows the totals, which are the sums over the rows.
    rw [hsum, hsum]
    exact r.lines_eq_rows
  · exact h.rows_ofTally buildTime options kind kept
  · obtain ⟨hpos, hle⟩ := h.size_signatures_rows buildTime options kind kept hrow
    exact ⟨hpos, hle, row.length_details, row.signatures.sorted⟩

/-- Two counts with a pass in common: the variants of this pass are on one line. -/
theorem headline_agrees_with_sections_merged :
    let t := ((({} : Tally).slot "Sky").2.record 0 "FOG" true).record 0 "FOG" true
    let u := (((({} : Tally).slot "Sea").2.slot "Sky").2.record 1 "" true).record 1 "FOG" false
    (t.merge u).Reached ["Sky", "Sea", "Sky"] ∧
      (Report.ofTally (t.merge u) 2500 {} .player).lines =
        ["Build Duration: 2ms", "Shader Stripping Duration: 0ms", "Total shaders included: 3",
          "Total shaders stripped: 1", "", Report.separator, "", "INCLUDED SHADER VARIANTS", "",
          Report.separator, "", "Sky [3 variants | 2 combinations]", "\t <no keywords>", "\t FOG",
          "", "", Report.separator, "", "STRIPPED SHADER VARIANTS", "", Report.separator, "",
          "Sky [1 variants | 1 combinations]"] := by
  intro t u
  have ht : t.Reached ["Sky"] :=
    ((Tally.Reached.start.slot "Sky").record (by decide) "FOG" true).record (by decide) "FOG" true
  have hu : u.Reached ["Sea", "Sky"] :=
    (((Tally.Reached.start.slot "Sea").slot "Sky").record (by decide) "" true).record
      (by decide) "FOG" false
  have hboth := ht.merge hu
  obtain ⟨hlines, -⟩ := headline_agrees_with_sections hboth 2500 {} .player
  exact ⟨hboth, hlines.trans (by decide)⟩

end VariantStrip
