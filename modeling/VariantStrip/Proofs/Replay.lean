/-
Processing a recorded build in parts.

What is left of the passes, and what is counted of them, depends neither on the number of jobs nor
on where the passes are cut:

* `Engine.value_processWork` — passes in order filter their candidates and append their records,
* `Engine.value_processShards` — parts do the same, since merging tallies is appending records,
* `Stripper.value_replayWork` — so a replay does the same either way.

The main result is `parallel_eq_sequential`, on the whole of a strip.
-/
import VariantStrip.Command.Strip
import VariantStrip.Proofs.BuildRun
import VariantStrip.Proofs.Manifest

namespace VariantStrip

/-- A work item as a call. -/
def PassWork.call (h : Host) (w : PassWork) : PassCall := ⟨h, w.shader, w.snippet, w.candidates⟩

/-! ### The engine -/

namespace Engine

variable (e : Engine) (h : Host)

/-- Work items with the candidates that the engine keeps. -/
def filterWork (ws : List PassWork) : List PassWork := ws.map (PassWork.filter (e.keeps h))

/-- What is counted of work items. -/
def recordsOfWork (ws : List PassWork) : List PassRecord :=
  ws.map fun w => e.recordOfCall (w.call h)

theorem value_processWork (ws : List PassWork) (rs : List PassRecord) :
    (e.processWork h ws (.ofRecords rs)).value =
      (e.filterWork h ws, .ofRecords (rs ++ e.recordsOfWork h ws)) := by
  induction ws generalizing rs with
  | nil => simp [processWork, filterWork, recordsOfWork]
  | cons w ws ih =>
    rw [processWork]
    simp only [Logged.value_bind, Logged.value_pure, value_process, ih]
    simp [filterWork, recordsOfWork, recordOfCall, PassWork.call, PassWork.filter]

/-- **Parts.**  The parts of some work filter and count what the whole work does. -/
theorem value_processShards (shards : Shards) :
    (e.processShards h shards).value =
      (e.filterWork h shards.items, .ofRecords (e.recordsOfWork h shards.items)) := by
  induction shards with
  | part items => exact e.value_processWork h items []
  | join left right ihl ihr =>
    rw [processShards]
    simp only [Logged.value_bind, Logged.value_pure, ihl, ihr, Tally.merge_ofRecords]
    simp [filterWork, recordsOfWork, Shards.items]

end Engine

/-! ### The stripper -/

namespace Stripper

/-- Whether the stripper keeps a candidate of a pass; without an engine it keeps all. -/
def keeps (s : Stripper) (h : Host) (shader : ShaderId) (snippet : Snippet) (x : Candidate) :
    Bool :=
  s.engine.all fun e => e.keeps h shader snippet x

/-- Work items with the candidates that the stripper keeps. -/
def filterWork (s : Stripper) (h : Host) (ws : List PassWork) : List PassWork :=
  ws.map (PassWork.filter (s.keeps h))

/-- What is counted of work items: nothing without an engine. -/
def recordsOfWork (s : Stripper) (h : Host) (ws : List PassWork) : List PassRecord :=
  match s.engine with
  | none => []
  | some e => e.recordsOfWork h ws

theorem filterWork_of_none {s : Stripper} (hengine : s.engine = none) (h : Host)
    (ws : List PassWork) : s.filterWork h ws = ws := by
  have hfilter (w : PassWork) : w.filter (s.keeps h) = w := by
    have hkeeps : w.candidates.filter (s.keeps h w.shader w.snippet) = w.candidates :=
      List.filter_eq_self.mpr fun x _ => by simp [keeps, hengine]
    rw [PassWork.filter, hkeeps]
  rw [filterWork, funext hfilter]
  exact List.map_id _

theorem filterWork_of_some {s : Stripper} {e : Engine} (hengine : s.engine = some e) (h : Host)
    (ws : List PassWork) : s.filterWork h ws = e.filterWork h ws := by
  have hkeeps : s.keeps h = e.keeps h := by
    funext shader snippet x
    simp [keeps, hengine]
  rw [filterWork, hkeeps, Engine.filterWork]

theorem value_processWork_of_none {s : Stripper} (hengine : s.engine = none) (h : Host)
    (ws : List PassWork) : (s.processWork h ws).value = (ws, s) := by
  induction ws with
  | nil => rfl
  | cons w ws ih =>
    rw [processWork]
    simp only [Logged.value_bind, Logged.value_pure, process, hengine, ih]

theorem value_processWork_of_some {s : Stripper} {e : Engine} (hengine : s.engine = some e)
    (h : Host) (ws : List PassWork) :
    (s.processWork h ws).value =
      ((e.processWork h ws s.tally).value.1,
        { s with tally := (e.processWork h ws s.tally).value.2 }) := by
  induction ws generalizing s with
  | nil => rfl
  | cons w ws ih =>
    let processed := (e.process h w.shader w.snippet w.candidates s.tally).value
    have hprocess : (s.process h w.shader w.snippet w.candidates).value =
        (processed.1, processed.2.1, { s with tally := processed.2.2 }) := by
      rw [process, hengine]
      rfl
    rw [processWork]
    simp only [Logged.value_bind, Logged.value_pure, hprocess]
    rw [ih (s := { s with tally := processed.2.2 }) hengine]
    rfl

/-- **A replay** leaves what the stripper keeps and appends the records of all passes, for any
number of jobs and wherever the work is cut. -/
theorem value_replayWork {s : Stripper} {rs : List PassRecord} (htally : s.tally = .ofRecords rs)
    (h : Host) (sharding : Sharding) (jobs : Nat) (ws : List PassWork) :
    (s.replayWork h sharding jobs ws).value =
      (s.filterWork h ws, { s with tally := .ofRecords (rs ++ s.recordsOfWork h ws) }) := by
  rw [replayWork]
  rcases Option.eq_none_or_eq_some s.engine with hengine | ⟨e, hengine⟩
  · -- Without an engine the passes are left alone, in parts as in order.
    have hrecords : s.recordsOfWork h ws = [] := by rw [recordsOfWork, hengine]
    rw [filterWork_of_none hengine, hrecords, List.append_nil, ← htally]
    refine (?_ : _ = (ws, s))
    by_cases hjobs : 1 < jobs
    · rw [if_pos hjobs, hengine]
      rfl
    · rw [if_neg hjobs, value_processWork_of_none hengine]
  · have hrecords : s.recordsOfWork h ws = e.recordsOfWork h ws := by rw [recordsOfWork, hengine]
    rw [filterWork_of_some hengine, hrecords]
    by_cases hjobs : 1 < jobs
    · rw [if_pos hjobs, hengine]
      simp only [Logged.value_bind, Logged.value_pure, Engine.value_processShards,
        sharding.items_cut, absorb, htally, Tally.merge_ofRecords]
      rw [hengine]
    · rw [if_neg hjobs, value_processWork_of_some hengine, htally, Engine.value_processWork]

end Stripper

/-! ### A strip -/

namespace StripSession

/-- What is left of the passes of a recorded build, and what is counted of them. -/
def replayed (session : StripSession) : StripResult :=
  let work := session.manifest.takeWork
  { stripper :=
      { session.stripper with
        tally := .ofRecords (session.stripper.recordsOfWork session.host work.1) }
    manifest := work.2.restoreWork (session.stripper.filterWork session.host work.1)
    passes := work.1.length
    variantsIn := session.manifest.variantCount }

theorem value_replay {session : StripSession} (htally : session.stripper.tally = {})
    (sharding : Sharding) (jobs : Nat) :
    (session.replay sharding jobs).value = session.replayed := by
  rw [← Tally.ofRecords_nil] at htally
  have hreplay := Stripper.value_replayWork htally session.host sharding jobs
    session.manifest.takeWork.1
  simp only [replay, Stripper.replay, Logged.value_bind, Logged.value_pure, hreplay,
    List.nil_append]
  rfl

/-- What has been read: settings with the report settings over them, and the recorded build. -/
theorem read_ok {o : StripOptions} {config : Path} {e : Environment} {d : Disk}
    {settings : Settings} {manifest : Manifest}
    (hok : read o config e d = .ok (settings, manifest)) :
    ∃ loaded overrides, Settings.load d o.settings = .ok loaded ∧
      ReportOverrides.load d config e o.overrides = .ok overrides ∧
      settings = overrides.apply loaded ∧ Manifest.load d o.manifest = .ok manifest := by
  obtain ⟨loaded, hloaded, hrest⟩ := bind_eq_ok_iff.mp hok
  obtain ⟨overrides, hoverrides, hrest⟩ := bind_eq_ok_iff.mp hrest
  obtain ⟨manifest', hmanifest, hrest⟩ := bind_eq_ok_iff.mp hrest
  cases hrest
  exact ⟨loaded, overrides, mapError_eq_ok_iff.mp hloaded, mapError_eq_ok_iff.mp hoverrides, rfl,
    mapError_eq_ok_iff.mp hmanifest⟩

/-- A strip that has started holds a build that has been prepared. -/
theorem start_ok [Pattern.Capacity] {o : StripOptions} {config : Path} {e : Environment} {d : Disk}
    {session : StripSession} (hok : (start o config e d).value = .ok session) :
    session.host = session.manifest.host ∧
      ∃ settings, read o config e d = .ok (settings, session.manifest) ∧
        (Stripper.prepare ⟨stripperConfig o settings, none, {}, .player⟩ d session.host
          o.assetBundles).value = (.ok (), session.stripper) := by
  unfold start at hok
  cases hread : read o config e d with
  | error failure =>
    simp only [hread] at hok
    cases hok
  | ok inputs =>
    obtain ⟨settings, manifest⟩ := inputs
    simp only [hread, Logged.value_bind] at hok
    generalize hprepared : (Stripper.prepare ⟨stripperConfig o settings, none, {}, .player⟩ d
      manifest.host o.assetBundles).value = prepared at hok
    obtain ⟨outcome, stripper⟩ := prepared
    cases outcome with
    | error cause => cases hok
    | ok u =>
      cases hok
      exact ⟨rfl, settings, rfl, hprepared⟩

/-- At the start nothing has been counted. -/
theorem tally_of_start_ok [Pattern.Capacity] {o : StripOptions} {config : Path} {e : Environment}
    {d : Disk} {session : StripSession} (hok : (start o config e d).value = .ok session) :
    session.stripper.tally = {} := by
  obtain ⟨-, settings, -, hprepare⟩ := start_ok hok
  obtain ⟨ready, -, hprepared⟩ := Stripper.prepare_ok (congrArg Prod.fst hprepare)
  rw [hprepare] at hprepared
  exact congrArg Stripper.tally hprepared

end StripSession

namespace StripResult

/-- The report of a strip. -/
def report (r : StripResult) (clock : RunClock) (d : Disk) : Option Report :=
  ({ r.stripper with tally := r.stripper.tally.addStripTime clock.stripTime }.finalize
    clock.buildTime clock.today d).value.1

/-- The end of a strip: the report is what is saved, and the totals are what is returned. -/
theorem finish_eq (r : StripResult) (o : StripOptions) (clock : RunClock) (d : Disk) :
    ∃ disk, (r.finish o clock d).value =
      ((r.save o (r.report clock d) disk).1.map fun () => r.totals,
        (r.save o (r.report clock d) disk).2) :=
  ⟨_, rfl⟩

/-- What is returned is the totals. -/
theorem eq_totals_of_finish {r : StripResult} {o : StripOptions} {clock : RunClock} {d : Disk}
    {totals : StripTotals} (hok : (r.finish o clock d).value.1 = .ok totals) :
    totals = r.totals := by
  obtain ⟨disk, hfinish⟩ := r.finish_eq o clock d
  rw [hfinish] at hok
  obtain ⟨_, -, h⟩ := map_eq_ok_iff.mp hok
  exact h.symm

end StripResult

/-- A report without its times. -/
def Report.untimed (r : Report) : Report := { r with buildTime := 0, stripTime := 0 }

/-- The manifest, the totals and the report of a strip, without the times of the report. -/
def StripResult.untimed (clock : RunClock) (d : Disk) (r : StripResult) :
    Manifest × StripTotals × Option Report :=
  (r.manifest, r.totals, (r.report clock d).map Report.untimed)

/-- The times are all that a report takes from the clock. -/
theorem StripResult.untimed_eq (clock clock' : RunClock) (d : Disk) :
    StripResult.untimed clock d = StripResult.untimed clock' d := by
  funext r
  simp only [untimed, report, Stripper.finalize]
  cases r.stripper.engine <;> rfl

namespace StripOptions

variable [Pattern.Capacity] (o : StripOptions) (config : Path) (e : Environment) (d : Disk)

theorem value_compute (sharding : Sharding) :
    (o.compute config e sharding d).value =
      (StripSession.start o config e d).value.map StripSession.replayed := by
  rw [compute]
  simp only [Logged.value_bind]
  cases hstart : (StripSession.start o config e d).value with
  | error failure => rfl
  | ok session =>
    simp only [Logged.value_bind, Logged.value_pure,
      StripSession.value_replay (StripSession.tally_of_start_ok hstart), Except.map]

theorem value_run (sharding : Sharding) (clock : RunClock) :
    (o.run config e sharding clock d).value =
      match (o.compute config e sharding d).value with
      | .error failure => (.error failure, d)
      | .ok r => (r.finish o clock d).value := by
  rw [run]
  simp only [Logged.value_bind]
  cases (o.compute config e sharding d).value <;> rfl

/-- A run that succeeds returns the totals of what has been computed. -/
theorem run_ok {sharding : Sharding} {clock : RunClock} {totals : StripTotals}
    (hok : (o.run config e sharding clock d).value.1 = .ok totals) :
    ∃ session, (StripSession.start o config e d).value = .ok session ∧
      (o.compute config e sharding d).value = .ok session.replayed ∧
      totals = session.replayed.totals := by
  rw [value_run, value_compute] at hok
  cases hstart : (StripSession.start o config e d).value with
  | error failure =>
    rw [hstart] at hok
    cases hok
  | ok session =>
    rw [hstart] at hok
    refine ⟨session, rfl, ?_, StripResult.eq_totals_of_finish hok⟩
    rw [value_compute, hstart]
    rfl

end StripOptions

/-- **A run in parts equals a run in order.**  For any number of jobs, and wherever the work is cut,
a strip computes what the strip with one job computes: the same manifest, the same totals and the
same counts.  With the same clock the two runs end in the same way and write the same files.  With
two clocks their reports differ in times only, and they return the same totals. -/
theorem parallel_eq_sequential [Pattern.Capacity] (o : StripOptions) (config : Path)
    (e : Environment) (sharding sharding' : Sharding) (d : Disk) :
    (o.compute config e sharding d).value =
        ({ o with jobs := 1 }.compute config e sharding' d).value ∧
      (∀ clock, (o.run config e sharding clock d).value =
        ({ o with jobs := 1 }.run config e sharding' clock d).value) ∧
      ∀ clock clock',
        (o.compute config e sharding d).value.map (StripResult.untimed clock d) =
          ({ o with jobs := 1 }.compute config e sharding' d).value.map
            (StripResult.untimed clock' d) ∧
        ∀ totals totals', (o.run config e sharding clock d).value.1 = .ok totals →
          ({ o with jobs := 1 }.run config e sharding' clock' d).value.1 = .ok totals' →
          totals = totals' := by
  -- Neither the start of a strip nor its end looks at the number of jobs.
  have hcompute : (o.compute config e sharding d).value =
      ({ o with jobs := 1 }.compute config e sharding' d).value := by
    rw [StripOptions.value_compute, StripOptions.value_compute]
    rfl
  refine ⟨hcompute, fun clock => ?_, fun clock clock' => ⟨?_, fun totals totals' hok hok' => ?_⟩⟩
  · rw [StripOptions.value_run, StripOptions.value_run, hcompute]
    rfl
  · rw [← hcompute, StripResult.untimed_eq clock clock' d]
  · obtain ⟨session, -, hsession, rfl⟩ := StripOptions.run_ok o config e d hok
    obtain ⟨session', -, hsession', rfl⟩ := StripOptions.run_ok { o with jobs := 1 } config e d hok'
    rw [hcompute, hsession'] at hsession
    rw [Except.ok.inj hsession]

/-- A disk with settings, and with a recorded build that has a shader twice. -/
def sandDisk : Disk where
  entries := [
    (["s.ron"], .file "(rules: [(rule: StripPlatforms((platforms: [PS4])))])"),
    (["m.json"], .file (
      "\x7b\"shaders\":[" ++
      "\x7b\"name\":\"Sand\",\"passes\":[\x7b\"pass_type\":\"Normal\"," ++
      "\"variants\":[\x7b\"platform\":\"PS5\"\x7d,\x7b\"platform\":\"PS4\"\x7d]\x7d]\x7d," ++
      "\x7b\"name\":\"Sand\",\"passes\":[\x7b\"pass_type\":\"Meta\"\x7d," ++
      "\x7b\"pass_type\":\"Normal\",\"variants\":[\x7b\"platform\":\"PS4\"\x7d]\x7d]\x7d]\x7d"))]

/-- A strip of the build in parts. -/
def sandOptions : StripOptions where
  settings := ⟨"s.ron"⟩
  manifest := ⟨"m.json"⟩
  jobs := 3

theorem run_sandOptions :
    (sandOptions.run ⟨""⟩ [] .byHalves ⟨⟨2024, 2, 29⟩, 0, 0⟩ sandDisk).value.1 =
      .ok ⟨3, 3, 1, true⟩ := by
  decide +kernel

theorem parallel_eq_sequential_sand :
    ({ sandOptions with jobs := 1 }.run ⟨""⟩ [] .byHalves ⟨⟨2024, 2, 29⟩, 0, 0⟩ sandDisk).value.1 =
      .ok ⟨3, 3, 1, true⟩ := by
  obtain ⟨-, hrun, -⟩ := parallel_eq_sequential sandOptions ⟨""⟩ [] .byHalves .byHalves sandDisk
  rw [← hrun]
  exact run_sandOptions

end VariantStrip
