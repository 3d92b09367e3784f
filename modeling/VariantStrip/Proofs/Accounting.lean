/-
The accounts of a strip.

Three counters see the variants of a build: the recorded build before and after the strip, and the
tally behind the report.  They agree, since the work items hold the variants of the build
(`Manifest.length_candidates_takeWork`) and every candidate of an item is counted once
(`Stripper.included_replayed`, `Stripper.stripped_replayed`).

The main result is `strip_accounts`.
-/
import VariantStrip.Proofs.Replay

namespace VariantStrip

/-! ### Totals of records -/

namespace Engine

variable (e : Engine) (h : Host) (ws : List PassWork)

theorem included_recordsOfWork :
    (Tally.ofRecords (e.recordsOfWork h ws)).included =
      ((e.filterWork h ws).flatMap (·.candidates)).length := by
  induction ws with
  | nil => rfl
  | cons w ws ih =>
    have hkept : (e.recordOfCall (w.call h)).decisions.countP (fun d => d.2) =
        (w.filter (e.keeps h)).candidates.length := by
      rw [PassWork.filter, ← List.countP_eq_length_filter]
      exact List.countP_map
    simp only [Tally.ofRecords, recordsOfWork, filterWork, List.map_cons, List.flatMap_cons,
      List.countP_append, List.length_append] at ih ⊢
    rw [hkept, ih]

/-- Every candidate is counted once. -/
theorem included_add_stripped_recordsOfWork :
    (Tally.ofRecords (e.recordsOfWork h ws)).included +
        (Tally.ofRecords (e.recordsOfWork h ws)).stripped =
      (ws.flatMap (·.candidates)).length := by
  induction ws with
  | nil => rfl
  | cons w ws ih =>
    have hlength := countP_add_countP_not (fun d : String × Bool => d.2)
      (e.recordOfCall (w.call h)).decisions
    have hsize : (e.recordOfCall (w.call h)).decisions.length = w.candidates.length :=
      List.length_map _
    simp only [Tally.ofRecords, recordsOfWork, List.map_cons, List.flatMap_cons,
      List.countP_append, List.length_append] at ih ⊢
    omega

end Engine

/-! ### A strip -/

namespace StripSession

theorem manifest_replayed {session : StripSession} (hhost : session.host = session.manifest.host) :
    session.replayed.manifest =
      session.manifest.filterVariants fun s p =>
        session.stripper.keeps session.host (session.host.handleOf s.name) p.snippet := by
  rw [hhost, ← Manifest.restoreWork_filter, ← hhost]
  rfl

theorem variantCount_replayed {session : StripSession}
    (hhost : session.host = session.manifest.host) :
    session.replayed.manifest.variantCount =
      ((session.stripper.filterWork session.host session.manifest.takeWork.1).flatMap
        (·.candidates)).length := by
  rw [manifest_replayed hhost, hhost, ← Manifest.length_candidates_takeWork,
    Manifest.takeWork_filterVariants, Stripper.filterWork]

/-- The totals of the counts. -/
theorem totals_tally_replayed {session : StripSession} {e : Engine}
    (hhost : session.host = session.manifest.host) (hengine : session.stripper.engine = some e) :
    session.replayed.stripper.tally.included = session.replayed.manifest.variantCount ∧
      session.replayed.stripper.tally.included + session.replayed.stripper.tally.stripped =
        session.manifest.variantCount := by
  have hrecords : session.stripper.recordsOfWork session.host session.manifest.takeWork.1 =
      e.recordsOfWork session.host session.manifest.takeWork.1 := by
    rw [Stripper.recordsOfWork, hengine]
  have htally : session.replayed.stripper.tally =
      .ofRecords (e.recordsOfWork session.host session.manifest.takeWork.1) := by
    rw [← hrecords]
    rfl
  rw [htally, variantCount_replayed hhost, Stripper.filterWork_of_some hengine]
  refine ⟨e.included_recordsOfWork _ _, ?_⟩
  rw [e.included_add_stripped_recordsOfWork, Manifest.length_candidates_takeWork]

theorem variantCount_replayed_le {session : StripSession}
    (hhost : session.host = session.manifest.host) :
    session.replayed.manifest.variantCount ≤ session.manifest.variantCount := by
  rcases Option.eq_none_or_eq_some session.stripper.engine with hengine | ⟨e, hengine⟩
  · -- Nothing is filtered.
    refine Nat.le_of_eq ?_
    rw [variantCount_replayed hhost, Stripper.filterWork_of_none hengine,
      Manifest.length_candidates_takeWork]
  · obtain ⟨hout, hin⟩ := totals_tally_replayed hhost hengine
    omega

end StripSession

theorem StripResult.report_of_some {r : StripResult} {e : Engine}
    (hengine : r.stripper.engine = some e) (clock : RunClock) (d : Disk) :
    ∃ report, r.report clock d = some report ∧
      report.included = r.stripper.tally.included ∧
      report.stripped = r.stripper.tally.stripped := by
  rw [report, Stripper.finalize, hengine]
  exact ⟨_, rfl, rfl, rfl⟩

/-- **The accounts of a strip.**  A run that succeeds has filtered the variants of each pass of the
recorded build, and changed nothing else in it.  The totals count its passes and its variants before
and after.  When rules are enabled the report counts the same variants. -/
theorem strip_accounts [Pattern.Capacity] (o : StripOptions) (config : Path) (e : Environment)
    (sharding : Sharding) (clock : RunClock) (d : Disk) {totals : StripTotals}
    (hok : (o.run config e sharding clock d).value.1 = .ok totals) :
    ∃ session r, (StripSession.start o config e d).value = .ok session ∧
      Manifest.load d o.manifest = .ok session.manifest ∧
      (o.compute config e sharding d).value = .ok r ∧
      r.manifest = (session.manifest.filterVariants fun s p =>
        session.stripper.keeps session.host (session.host.handleOf s.name) p.snippet) ∧
      totals.passes = session.manifest.passCount ∧
      totals.variantsIn = session.manifest.variantCount ∧
      totals.variantsOut = r.manifest.variantCount ∧
      totals.variantsOut ≤ totals.variantsIn ∧
      totals.enabled = session.stripper.isEnabled ∧
      (session.stripper.isEnabled = true → ∃ report, r.report clock d = some report ∧
        report.included = totals.variantsOut ∧
        report.stripped = totals.variantsIn - totals.variantsOut) := by
  obtain ⟨session, hstart, hcompute, rfl⟩ := StripOptions.run_ok o config e d hok
  obtain ⟨hhost, settings, hread, -⟩ := StripSession.start_ok hstart
  obtain ⟨-, -, -, -, -, hload⟩ := StripSession.read_ok hread
  refine ⟨session, session.replayed, hstart, hload, hcompute,
    StripSession.manifest_replayed hhost, session.manifest.length_takeWork, rfl, rfl,
    StripSession.variantCount_replayed_le hhost, rfl, fun henabled => ?_⟩
  obtain ⟨engine, hengine⟩ := Option.isSome_iff_exists.mp henabled
  obtain ⟨report, hreport, hincluded, hstripped⟩ :=
    StripResult.report_of_some (r := session.replayed) hengine clock d
  obtain ⟨hout, hin⟩ := StripSession.totals_tally_replayed hhost hengine
  refine ⟨report, hreport, hincluded.trans hout, ?_⟩
  have hvariantsIn : session.replayed.totals.variantsIn = session.manifest.variantCount := rfl
  have hvariantsOut : session.replayed.totals.variantsOut =
      session.replayed.manifest.variantCount := rfl
  omega

theorem strip_accounts_sand :
    (sandOptions.run ⟨""⟩ [] .byHalves ⟨⟨2024, 2, 29⟩, 0, 0⟩ sandDisk).value.1 =
        .ok ⟨3, 3, 1, true⟩ ∧
      ∃ r report, (sandOptions.compute ⟨""⟩ [] .byHalves sandDisk).value = .ok r ∧
        r.manifest.variantCount = 1 ∧ r.report ⟨⟨2024, 2, 29⟩, 0, 0⟩ sandDisk = some report ∧
        report.included = 1 ∧ report.stripped = 2 := by
  obtain ⟨session, r, -, -, hcompute, -, -, -, hout, -, henabled, hreports⟩ :=
    strip_accounts sandOptions ⟨""⟩ [] .byHalves ⟨⟨2024, 2, 29⟩, 0, 0⟩ sandDisk run_sandOptions
  obtain ⟨report, hreport, hincluded, hstripped⟩ := hreports henabled.symm
  exact ⟨run_sandOptions, r, report, hcompute, hout.symm, hreport, hincluded, hstripped⟩

end VariantStrip
