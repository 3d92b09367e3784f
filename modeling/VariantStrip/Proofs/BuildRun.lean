/-
A build from its preparation to its report.

Between the two a stripper is shown passes, and absorbs parts of the build that were processed
elsewhere, in any order (`BuildStep`).  The invariant of a build is that its tally is the tally of
the records of all calls so far:

* `Engine.value_fill` — it holds while a part is processed,
* `Stripper.value_advance` — each step keeps it,
* `Stripper.value_advanceAll` — so it holds after any steps.

What a report says follows from what the tally of some records says (`Tally.holds_ofRecords`).  The
main result is `report_holds_decisions`.
-/
import Mathlib.Algebra.GroupWithZero.Nat
import VariantStrip.Pattern.Estimate
import VariantStrip.Proofs.Prepare

namespace VariantStrip

/-- A pass that is shown to an engine. -/
structure PassCall where
  host : Host
  shader : ShaderId
  snippet : Snippet
  candidates : List Candidate

/-- Something that happens between the preparation of a build and its end. -/
inductive BuildStep where
  /-- A pass is shown to the stripper. -/
  | pass (call : PassCall)
  /-- The stripper absorbs a part of the build, whose passes were shown to its engine. -/
  | shard (calls : List PassCall)

/-- The key of the pass. -/
def PassCall.key (c : PassCall) : String := Engine.keyOf c.host c.shader c.snippet

/-- The passes of some steps, in order. -/
def BuildStep.calls : List BuildStep → List PassCall
  | [] => []
  | pass call :: steps => call :: calls steps
  | shard shown :: steps => shown ++ calls steps

namespace Engine

/-- Shows passes to an engine, which counts in a tally of its own. -/
def fill (e : Engine) : List PassCall → Tally → Logged (List Outcome × Tally)
  | [], t => pure ([], t)
  | c :: cs, t => do
    let (_, outcome, t) ← e.process c.host c.shader c.snippet c.candidates t
    let (outcomes, t) ← e.fill cs t
    return (outcome :: outcomes, t)

/-- What is counted of a call. -/
def recordOfCall (e : Engine) (c : PassCall) : PassRecord :=
  e.recordOf c.host c.shader c.snippet c.candidates

/-- The outcome of a call. -/
def outcomeOf (e : Engine) (c : PassCall) : Outcome where
  kept := c.candidates.countP (e.keeps c.host c.shader c.snippet)
  stripped := c.candidates.countP fun x => !e.keeps c.host c.shader c.snippet x

/-- The candidates processed under a key that were kept, or those that were stripped. -/
def candidatesUnder (e : Engine) (cs : List PassCall) (key : String) (kept : Bool) :
    List Candidate :=
  (cs.filter (·.key == key)).flatMap fun c =>
    c.candidates.filter fun x => e.keeps c.host c.shader c.snippet x == kept

theorem value_fill (e : Engine) (cs : List PassCall) (rs : List PassRecord) :
    (e.fill cs (.ofRecords rs)).value =
      (cs.map e.outcomeOf, .ofRecords (rs ++ cs.map e.recordOfCall)) := by
  induction cs generalizing rs with
  | nil => simp [fill]
  | cons c cs ih =>
    rw [fill]
    simp only [Logged.value_bind, Logged.value_pure, value_process, ih]
    simp [outcomeOf, recordOfCall]

end Engine

namespace Stripper

/-- Does a step of a build.  The answer is what became of each pass. -/
def advance (s : Stripper) : BuildStep → Logged (List Outcome × Stripper)
  | .pass c => do
    let (_, outcome, s) ← s.process c.host c.shader c.snippet c.candidates
    return ([outcome], s)
  | .shard cs =>
    match s.engine with
    | none => pure ([], s)
    | some e => do
      let (outcomes, t) ← e.fill cs {}
      return (outcomes, s.absorb t)

/-- Does the steps of a build in order. -/
def advanceAll (s : Stripper) : List BuildStep → Logged (List Outcome × Stripper)
  | [] => pure ([], s)
  | step :: steps => do
    let (outcomes, s) ← s.advance step
    let (rest, s) ← s.advanceAll steps
    return (outcomes ++ rest, s)

/-- **One step** adds the records of its calls to those that the tally counts. -/
theorem value_advance {s : Stripper} {e : Engine} (hengine : s.engine = some e)
    {rs : List PassRecord} (htally : s.tally = .ofRecords rs) (step : BuildStep) :
    (s.advance step).value =
      ((BuildStep.calls [step]).map e.outcomeOf,
        { s with tally := .ofRecords (rs ++ (BuildStep.calls [step]).map e.recordOfCall) }) := by
  cases step with
  | pass c =>
    simp only [advance, process, hengine, htally, Logged.value_bind, Logged.value_pure,
      Engine.value_process]
    rfl
  | shard cs =>
    -- The part is counted from nothing, and merging appends its records.
    have hfill := e.value_fill cs []
    rw [Tally.ofRecords_nil] at hfill
    simp only [advance, hengine, Logged.value_bind, Logged.value_pure, hfill, absorb, htally,
      Tally.merge_ofRecords, BuildStep.calls, List.append_nil, List.nil_append]

/-- **Any steps** add the records of their calls. -/
theorem value_advanceAll {s : Stripper} {e : Engine} (hengine : s.engine = some e)
    {rs : List PassRecord} (htally : s.tally = .ofRecords rs) (steps : List BuildStep) :
    (s.advanceAll steps).value =
      ((BuildStep.calls steps).map e.outcomeOf,
        { s with tally := .ofRecords (rs ++ (BuildStep.calls steps).map e.recordOfCall) }) := by
  induction steps generalizing s rs with
  | nil =>
    rw [advanceAll, BuildStep.calls, List.map_nil, List.map_nil, List.append_nil, ← htally]
    rfl
  | cons step steps ih =>
    -- The induction is for any stripper with this engine, since a step changes the tally.
    have hcalls : BuildStep.calls (step :: steps) =
        BuildStep.calls [step] ++ BuildStep.calls steps := by
      cases step <;> simp [BuildStep.calls]
    let s' : Stripper :=
      { s with tally := .ofRecords (rs ++ (BuildStep.calls [step]).map e.recordOfCall) }
    have hrest := ih (s := s') hengine rfl
    rw [advanceAll, hcalls]
    simp only [Logged.value_bind, Logged.value_pure, value_advance hengine htally]
    rw [hrest]
    simp [s']

/-- Preparing forgets what has been counted. -/
theorem tally_prepare [Pattern.Capacity] (s : Stripper) (d : Disk) (h : Host)
    (assetBundles : Bool) :
    (s.prepare d h assetBundles).value.2.tally = {} := by
  simp only [prepare, Logged.value_bind]
  cases (engineFor s.config (.ofFlag assetBundles) d h).value <;> rfl

/-- **A build** has counted the records of its calls. -/
theorem value_advanceAll_prepare [Pattern.Capacity] {s : Stripper} {d : Disk} {h : Host}
    {assetBundles : Bool} {e : Engine}
    (hengine : (s.prepare d h assetBundles).value.2.engine = some e) (steps : List BuildStep) :
    ((s.prepare d h assetBundles).value.2.advanceAll steps).value =
      ((BuildStep.calls steps).map e.outcomeOf,
        { (s.prepare d h assetBundles).value.2 with
          tally := .ofRecords ((BuildStep.calls steps).map e.recordOfCall) }) := by
  have htally : (s.prepare d h assetBundles).value.2.tally = .ofRecords [] :=
    s.tally_prepare d h assetBundles
  exact value_advanceAll hengine htally steps

end Stripper

/-! ### What a report says -/

/-- **The report holds exactly some decisions**: those of an engine about the candidates of some
calls, which had some outcomes. -/
structure Report.Holds (r : Report) (e : Engine) (cs : List PassCall) (outcomes : List Outcome) :
    Prop where
  /-- The totals are sums over the calls. -/
  included : r.included = (outcomes.map (·.kept)).sum
  stripped : r.stripped = (outcomes.map (·.stripped)).sum
  /-- The entries are keyed by the passes, in the order in which these were first seen. -/
  keys : r.passes.map (·.1) = (cs.map (·.key)).eraseDups
  /-- The numbers of an entry are those of the candidates processed under its key. -/
  includeCount : ∀ key p, (key, p) ∈ r.passes →
    p.includeCount = (e.candidatesUnder cs key true).length
  stripCount : ∀ key p, (key, p) ∈ r.passes →
    p.stripCount = (e.candidatesUnder cs key false).length
  /-- The signatures of an entry are those of the candidates processed under its key. -/
  mem_included : ∀ key p, (key, p) ∈ r.passes → ∀ shown,
    shown ∈ p.included ↔ ∃ x ∈ e.candidatesUnder cs key true, signature x.keywords = shown
  mem_stripped : ∀ key p, (key, p) ∈ r.passes → ∀ shown,
    shown ∈ p.stripped ↔ ∃ x ∈ e.candidatesUnder cs key false, signature x.keywords = shown

namespace Engine

variable (e : Engine) (cs : List PassCall) (key : String)

theorem decisionsOf_recordOfCall :
    PassRecord.decisionsOf (cs.map e.recordOfCall) key =
      (cs.filter (·.key == key)).flatMap fun c =>
        e.decisions c.host c.shader c.snippet c.candidates := by
  rw [PassRecord.decisionsOf, List.filter_map, List.flatMap_map]
  rfl

theorem countP_decisionsOf (kept : Bool) :
    (PassRecord.decisionsOf (cs.map e.recordOfCall) key).countP (fun d => d.2 == kept) =
      (e.candidatesUnder cs key kept).length := by
  rw [decisionsOf_recordOfCall, List.countP_flatMap, candidatesUnder, List.length_flatMap]
  simp only [Function.comp_def, decisions, List.countP_map, ← List.countP_eq_length_filter]

theorem mem_decisionsOf (shown : String) (kept : Bool) :
    (shown, kept) ∈ PassRecord.decisionsOf (cs.map e.recordOfCall) key ↔
      ∃ x ∈ e.candidatesUnder cs key kept, signature x.keywords = shown := by
  rw [decisionsOf_recordOfCall]
  simp only [candidatesUnder, decisions, List.mem_flatMap, List.mem_map, List.mem_filter,
    Prod.mk.injEq, beq_iff_eq]
  constructor
  · rintro ⟨c, hc, x, hx, hshown, hkept⟩
    exact ⟨x, ⟨c, hc, hx, hkept⟩, hshown⟩
  · rintro ⟨x, ⟨c, hc, hx, hkept⟩, hshown⟩
    exact ⟨c, hc, x, hx, hshown, hkept⟩

end Engine

/-- The tally of the records of some calls holds their decisions. -/
theorem Tally.holds_ofRecords (e : Engine) (cs : List PassCall) (buildTime : Nat)
    (options : ReportOptions) (kind : BuildKind) :
    (Report.ofTally (.ofRecords (cs.map e.recordOfCall)) buildTime options kind).Holds e cs
      (cs.map e.outcomeOf) := by
  have hentry {key : String} {p : PassTally}
      (hp : (key, p) ∈ Tally.entriesOf (cs.map e.recordOfCall)) :
      p = .ofDecisions (PassRecord.decisionsOf (cs.map e.recordOfCall) key) := by
    obtain ⟨k, -, h⟩ := List.mem_map.mp hp
    cases h
    rfl
  refine ⟨?_, ?_, ?_, ?_, ?_, ?_, ?_⟩
  · simp only [Report.ofTally, Tally.ofRecords, List.countP_flatMap, List.map_map,
      Function.comp_def, Engine.recordOfCall, Engine.recordOf, Engine.decisions, List.countP_map,
      Engine.outcomeOf]
  · simp only [Report.ofTally, Tally.ofRecords, List.countP_flatMap, List.map_map,
      Function.comp_def, Engine.recordOfCall, Engine.recordOf, Engine.decisions, List.countP_map,
      Engine.outcomeOf]
  · simp only [Report.ofTally, Tally.ofRecords, Tally.map_fst_entriesOf, PassRecord.keys,
      List.map_map]
    rfl
  · intro key p hp
    rw [hentry hp, ← e.countP_decisionsOf cs key true]
    simp [PassTally.ofDecisions]
  · intro key p hp
    rw [hentry hp, ← e.countP_decisionsOf cs key false]
    simp [PassTally.ofDecisions]
  · intro key p hp shown
    rw [hentry hp, PassTally.mem_included_ofDecisions, e.mem_decisionsOf]
  · intro key p hp shown
    rw [hentry hp, PassTally.mem_stripped_ofDecisions, e.mem_decisionsOf]

/-! ### The end of a build -/

namespace Stripper

theorem value_finalize {s : Stripper} {e : Engine} (hengine : s.engine = some e) (buildTime : Nat)
    (today : Date) (d : Disk) :
    (s.finalize buildTime today d).value =
      (some (Report.ofTally s.tally buildTime s.reportOptions s.kind), { s with tally := {} },
        (s.publish (Report.ofTally s.tally buildTime s.reportOptions s.kind) today d).value) := by
  rw [finalize, hengine]
  rfl

/-- A report without passes is not written. -/
theorem value_publish_of_isEmpty (s : Stripper) {r : Report} (hr : r.isEmpty = true) (today : Date)
    (d : Disk) : (s.publish r today d).value = d := by
  rw [publish]
  cases s.config.settings.logPath with
  | none => rfl
  | some folder =>
    have hsave : (r.save folder today d).value = (.ok none, d) := by
      rw [Report.save, if_pos hr]
      rfl
    simp only [Logged.value_bind, hsave, Logged.value_pure]

/-- Ending a build of which nothing has been counted changes nothing. -/
theorem value_finalize_of_empty {s : Stripper} {e : Engine} (hengine : s.engine = some e)
    (htally : s.tally = {}) (buildTime : Nat) (today : Date) (d : Disk) :
    (s.finalize buildTime today d).value =
      (some (Report.ofTally {} buildTime s.reportOptions s.kind), s, d) := by
  rw [value_finalize hengine, htally, s.value_publish_of_isEmpty rfl, ← htally]

end Stripper

/-- **The report holds exactly the decisions of its build.**  After a success of `prepare` with an
engine, and after any steps, `finalize` returns a report that holds the decisions about all passes
of the steps.  Then nothing is counted any more: however often `finalize` is repeated, its reports
are empty, and neither the stripper nor the disk changes. -/
theorem report_holds_decisions [Pattern.Capacity] (s : Stripper) (d : Disk) (h : Host)
    (assetBundles : Bool) {e : Engine} (hok : (s.prepare d h assetBundles).value.1 = .ok ())
    (hengine : (s.prepare d h assetBundles).value.2.engine = some e) (steps : List BuildStep)
    (buildTime : Nat) (today : Date) (disk : Disk) :
    let build := ((s.prepare d h assetBundles).value.2.advanceAll steps).value
    let ended := (build.2.finalize buildTime today disk).value
    (∃ report, ended.1 = some report ∧ report.Holds e (BuildStep.calls steps) build.1) ∧
      ended.2.1.tally = {} ∧
      ∀ buildTime today disk, ∃ again,
        (ended.2.1.finalize buildTime today disk).value = (some again, ended.2.1, disk) ∧
          again.isEmpty = true ∧ again.included = 0 ∧ again.stripped = 0 := by
  obtain ⟨ready, -, hprepared⟩ := Stripper.prepare_ok hok
  have htally : (s.prepare d h assetBundles).value.2.tally = .ofRecords [] := by
    rw [hprepared]
    rfl
  have hbuild := Stripper.value_advanceAll hengine htally steps
  rw [List.nil_append] at hbuild
  intro build ended
  have hbuilt : build.2.engine = some e := by
    simp only [build, hbuild, hengine]
  have hended : ended = _ := Stripper.value_finalize hbuilt buildTime today disk
  -- The engine stays after the end, so the next end reports as well, but on nothing.
  have hempty : ended.2.1.engine = some e ∧ ended.2.1.tally = {} := by
    rw [hended]
    exact ⟨hbuilt, rfl⟩
  refine ⟨⟨_, by rw [hended], ?_⟩, hempty.2, fun buildTime today disk => ?_⟩
  · simp only [build, hbuild]
    exact Tally.holds_ofRecords e _ _ _ _
  · have hagain := Stripper.value_finalize_of_empty hempty.1 hempty.2 buildTime today disk
    exact ⟨_, hagain, rfl, rfl, rfl⟩

/-- A host with one shader. -/
def sandHost : Host := .ofList [{ name := "Sand" }]

/-- A stripper that strips what is built for one platform. -/
def sandStripper : Stripper where
  config := { settings := { rules := [{ spec := .stripPlatforms [.vulkan] }] } }

/-- A pass, then a part of the build with another pass and the first one, then the first one. -/
def sandSteps : List BuildStep :=
  let call (passName : String) (platforms : List Platform) : PassCall :=
    ⟨sandHost, ⟨0⟩, ⟨.normal, passName⟩, platforms.map fun p => ⟨["A"], p, .tier1⟩⟩
  [.pass (call "P" [.d3d]), .shard [call "Q" [.vulkan], call "P" [.vulkan, .d3d]],
    .pass (call "P" [.d3d])]

theorem report_holds_decisions_sand :
    (sandStripper.prepare {} sandHost false).value.1 = .ok () ∧
      ∃ e, (sandStripper.prepare {} sandHost false).value.2.engine = some e ∧
        ∃ report,
          (((sandStripper.prepare {} sandHost false).value.2.advanceAll sandSteps).value.2.finalize
            0 ⟨2024, 2, 29⟩ {}).value.1 = some report ∧
          report.included = 3 ∧ report.stripped = 2 ∧
          report.passes.map (·.1) = ["Sand::Normal::P", "Sand::Normal::Q"] := by
  have hok : (sandStripper.prepare {} sandHost false).value.1 = .ok () := by decide
  have hsome : (sandStripper.prepare {} sandHost false).value.2.isEnabled = true := by decide
  obtain ⟨e, he⟩ := Option.isSome_iff_exists.mp hsome
  obtain ⟨⟨report, hreport, hholds⟩, -⟩ := report_holds_decisions sandStripper {} sandHost false hok
    he sandSteps 0 ⟨2024, 2, 29⟩ {}
  refine ⟨hok, e, he, report, hreport, ?_, ?_, ?_⟩
  · rw [hholds.included]
    decide +kernel
  · rw [hholds.stripped]
    decide +kernel
  · rw [hholds.keys]
    decide +kernel

end VariantStrip
