/-
Preparing erases the history of a stripper.

A stripper is asked to do one thing after another (`Operation`), in any order.  Operations take
some time, which shows in tallies and reports, and otherwise makes no difference:

* `Stripper.perform_alike` — two strippers that differ in times only answer alike, and differ in
  times only afterwards,
* `Stripper.performAll_alike` — so they answer alike for ever,
* `Stripper.idle_performAll` — a stripper without an engine stays idle until it is prepared again.

Whatever has happened to two strippers of one configuration, preparing makes them equal.  The main
result is `prepare_erases_history`.
-/
import VariantStrip.Proofs.CatalogFiles
import VariantStrip.Proofs.Replay

namespace VariantStrip

/-! ### Times -/

namespace Tally

/-- A tally without its time. -/
def untimed (t : Tally) : Tally := { t with stripTime := 0 }

theorem slot_untimed (t : Tally) (key : String) :
    t.untimed.slot key = ((t.slot key).1, (t.slot key).2.untimed) := by
  rw [slot, slot, untimed]
  cases t.entries.findIdx? fun e => e.1 == key <;> rfl

theorem foldl_record_untimed (slot : Nat) (ds : List (String × Bool)) (t : Tally) :
    ds.foldl (fun t d => t.record slot d.1 d.2) t.untimed =
      (ds.foldl (fun t d => t.record slot d.1 d.2) t).untimed := by
  induction ds generalizing t with
  | nil => rfl
  | cons d ds ih => exact ih (t.record slot d.1 d.2)

theorem mergeEntry_untimed (t : Tally) (entry : String × PassTally) :
    t.untimed.mergeEntry entry = (t.mergeEntry entry).untimed := by
  rw [mergeEntry, slot_untimed, mergeEntry]
  rfl

theorem foldl_mergeEntry_untimed (es : List (String × PassTally)) (t : Tally) :
    es.foldl mergeEntry t.untimed = (es.foldl mergeEntry t).untimed := by
  induction es generalizing t with
  | nil => rfl
  | cons e es ih => rw [List.foldl_cons, mergeEntry_untimed, ih, List.foldl_cons]

theorem merge_untimed (t u : Tally) : t.untimed.merge u.untimed = (t.merge u).untimed := by
  have hentries : u.untimed.entries.foldl mergeEntry t.untimed =
      (u.entries.foldl mergeEntry t).untimed := foldl_mergeEntry_untimed u.entries t
  rw [merge, hentries, merge]
  rfl

end Tally

theorem Engine.value_process_untimed (e : Engine) (h : Host) (shader : ShaderId)
    (snippet : Snippet) (xs : List Candidate) (t : Tally) :
    (e.process h shader snippet xs t.untimed).value =
      ((e.process h shader snippet xs t).value.1, (e.process h shader snippet xs t).value.2.1,
        (e.process h shader snippet xs t).value.2.2.untimed) := by
  simp only [process, Tally.slot_untimed, value_processAll, Tally.foldl_record_untimed]

namespace Stripper

/-- A stripper without the time in its tally. -/
def untimed (s : Stripper) : Stripper := { s with tally := s.tally.untimed }

/-! ### Operations -/

/-- Something that a stripper is asked to do.  An operation comes with the disk that it sees, and
with the times that it takes. -/
inductive Operation where
  | prepare (d : Disk) (h : Host) (assetBundles : Bool)
  | process (call : PassCall) (time : Nat)
  | absorb (shard : Tally)
  | finalize (buildTime : Nat) (today : Date) (d : Disk)

/-- What a stripper answers. -/
inductive Answer where
  | prepared (outcome : Except StripError Unit)
  | processed (left : List Candidate) (outcome : Outcome)
  | absorbed
  | finalized (report : Option Report)

/-- Whether a build is prepared. -/
def Operation.isPrepare : Operation → Bool
  | prepare .. => true
  | _ => false

/-- An answer without the times of a report. -/
def Answer.untimed : Answer → Answer
  | finalized report => finalized (report.map Report.untimed)
  | a => a

/-- The same operation: it may take other times, and see a disk with the same catalogs. -/
inductive Operation.Alike (c : StripperConfig) : Operation → Operation → Prop
  | prepare {d d' : Disk} (hcatalogs : c.SameCatalogs d d') (h : Host) (assetBundles : Bool) :
    Alike c (.prepare d h assetBundles) (.prepare d' h assetBundles)
  | process (call : PassCall) (time time' : Nat) :
    Alike c (.process call time) (.process call time')
  | absorb {shard shard' : Tally} (hshard : shard.untimed = shard'.untimed) :
    Alike c (.absorb shard) (.absorb shard')
  | finalize (buildTime buildTime' : Nat) (today today' : Date) (d d' : Disk) :
    Alike c (.finalize buildTime today d) (.finalize buildTime' today' d')

/-- Counts the time of a pass, if passes are decided about. -/
def spend (s : Stripper) (time : Nat) : Stripper :=
  { s with tally := if s.isEnabled then s.tally.addStripTime time else s.tally }

/-- Does an operation. -/
def perform [Pattern.Capacity] (s : Stripper) : Operation → Logged (Answer × Stripper)
  | .prepare d h assetBundles => do
    let (outcome, s) ← s.prepare d h assetBundles
    return (.prepared outcome, s)
  | .process c time => do
    let (left, outcome, s) ← s.process c.host c.shader c.snippet c.candidates
    return (.processed left outcome, s.spend time)
  | .absorb shard => return (.absorbed, s.absorb shard)
  | .finalize buildTime today d => do
    let (report, s, _) ← s.finalize buildTime today d
    return (.finalized report, s)

/-- Does operations in order: what is answered to each, and what has been counted after it. -/
def performAll [Pattern.Capacity] (s : Stripper) :
    List Operation → Logged (List (Answer × Tally) × Stripper)
  | [] => pure ([], s)
  | op :: ops => do
    let (answer, s) ← s.perform op
    let (rest, last) ← s.performAll ops
    return ((answer, s.tally) :: rest, last)

/-! ### Equal but for the times -/

theorem value_prepare_of_config_eq [Pattern.Capacity] {s s' : Stripper}
    (hconfig : s.config = s'.config) (d : Disk) (h : Host) (assetBundles : Bool) :
    (s.prepare d h assetBundles).value = (s'.prepare d h assetBundles).value := by
  rw [prepare, prepare, hconfig]

theorem config_prepare [Pattern.Capacity] (s : Stripper) (d : Disk) (h : Host)
    (assetBundles : Bool) :
    (s.prepare d h assetBundles).value.2.config = s.config := by
  simp only [prepare, Logged.value_bind]
  cases (engineFor s.config (.ofFlag assetBundles) d h).value <;> rfl

theorem kind_prepare [Pattern.Capacity] (s : Stripper) (d : Disk) (h : Host) (assetBundles : Bool) :
    (s.prepare d h assetBundles).value.2.kind = .ofFlag assetBundles := by
  simp only [prepare, Logged.value_bind]
  cases (engineFor s.config (.ofFlag assetBundles) d h).value <;> rfl

theorem config_perform [Pattern.Capacity] (s : Stripper) (op : Operation) :
    (s.perform op).value.2.config = s.config := by
  cases op with
  | prepare d h assetBundles => exact s.config_prepare d h assetBundles
  | process c time =>
    rcases hengine : s.engine with - | e <;>
      simp only [perform, process, hengine, Logged.value_bind, Logged.value_pure, spend]
  | absorb shard => rfl
  | finalize buildTime today d =>
    rcases hengine : s.engine with - | e <;>
      simp only [perform, finalize, hengine, Logged.value_bind, Logged.value_pure]

theorem config_performAll [Pattern.Capacity] (s : Stripper) (ops : List Operation) :
    (s.performAll ops).value.2.config = s.config := by
  induction ops generalizing s with
  | nil => rfl
  | cons op ops ih =>
    simp only [performAll, Logged.value_bind, Logged.value_pure]
    rw [ih, config_perform]

theorem untimed_eq_iff {s s' : Stripper} :
    s.untimed = s'.untimed ↔ s.config = s'.config ∧ s.engine = s'.engine ∧
      s.tally.untimed = s'.tally.untimed ∧ s.kind = s'.kind := by
  cases s
  cases s'
  simp only [untimed, mk.injEq]

theorem value_process_of_none {s : Stripper} (hengine : s.engine = none) (c : PassCall) :
    (s.process c.host c.shader c.snippet c.candidates).value =
      (c.candidates, ⟨c.candidates.length, 0⟩, s) := by
  rw [process, hengine]
  rfl

theorem value_process_of_some {s : Stripper} {e : Engine} (hengine : s.engine = some e)
    (c : PassCall) :
    (s.process c.host c.shader c.snippet c.candidates).value =
      ((e.process c.host c.shader c.snippet c.candidates s.tally).value.1,
        (e.process c.host c.shader c.snippet c.candidates s.tally).value.2.1,
        { s with
          tally := (e.process c.host c.shader c.snippet c.candidates s.tally).value.2.2 }) := by
  rw [process, hengine]
  rfl

theorem value_finalize_of_none {s : Stripper} (hengine : s.engine = none) (buildTime : Nat)
    (today : Date) (d : Disk) : (s.finalize buildTime today d).value = (none, s, d) := by
  rw [finalize, hengine]
  rfl

theorem value_advanceAll_of_none {s : Stripper} (hengine : s.engine = none)
    (steps : List BuildStep) : (s.advanceAll steps).value.2 = s := by
  induction steps with
  | nil => rfl
  | cons step steps ih =>
    have hstep : (s.advance step).value.2 = s := by
      cases step with
      | pass c =>
        simp only [advance, Logged.value_bind, Logged.value_pure, value_process_of_none hengine]
      | shard cs =>
        rw [advance, hengine]
        rfl
    simp only [advanceAll, Logged.value_bind, Logged.value_pure, hstep, ih]

/-- Strippers that are equal but for their times process a pass alike. -/
theorem process_alike {s s' : Stripper} (hs : s.untimed = s'.untimed) (c : PassCall) :
    (s.process c.host c.shader c.snippet c.candidates).value.1 =
        (s'.process c.host c.shader c.snippet c.candidates).value.1 ∧
      (s.process c.host c.shader c.snippet c.candidates).value.2.1 =
        (s'.process c.host c.shader c.snippet c.candidates).value.2.1 ∧
      (s.process c.host c.shader c.snippet c.candidates).value.2.2.untimed =
        (s'.process c.host c.shader c.snippet c.candidates).value.2.2.untimed := by
  obtain ⟨hconfig, hengine, htally, hkind⟩ := untimed_eq_iff.mp hs
  rcases Option.eq_none_or_eq_some s.engine with hnone | ⟨e, hsome⟩
  · rw [value_process_of_none hnone, value_process_of_none (hengine ▸ hnone)]
    exact ⟨rfl, rfl, hs⟩
  · have hcounted := e.value_process_untimed c.host c.shader c.snippet c.candidates s.tally
    rw [htally, e.value_process_untimed, Prod.mk.injEq, Prod.mk.injEq] at hcounted
    rw [value_process_of_some hsome, value_process_of_some (hengine ▸ hsome)]
    exact ⟨hcounted.1.symm, hcounted.2.1.symm,
      untimed_eq_iff.mpr ⟨hconfig, hengine, hcounted.2.2.symm, hkind⟩⟩

theorem untimed_spend (s : Stripper) (time : Nat) : (s.spend time).untimed = s.untimed := by
  rw [spend]
  cases s.isEnabled <;> rfl

/-- Strippers that are equal but for their times end a build alike. -/
theorem finalize_alike {s s' : Stripper} (hs : s.untimed = s'.untimed) (buildTime buildTime' : Nat)
    (today today' : Date) (d d' : Disk) :
    (s.finalize buildTime today d).value.1.map Report.untimed =
        (s'.finalize buildTime' today' d').value.1.map Report.untimed ∧
      (s.finalize buildTime today d).value.2.1.untimed =
        (s'.finalize buildTime' today' d').value.2.1.untimed := by
  obtain ⟨hconfig, hengine, htally, hkind⟩ := untimed_eq_iff.mp hs
  rcases Option.eq_none_or_eq_some s.engine with hnone | ⟨e, hsome⟩
  · rw [value_finalize_of_none hnone, value_finalize_of_none (hengine ▸ hnone)]
    exact ⟨rfl, hs⟩
  · have hreport (s : Stripper) (buildTime : Nat) :
        (Report.ofTally s.tally buildTime s.reportOptions s.kind).untimed =
          Report.ofTally s.tally.untimed 0 s.reportOptions s.kind := rfl
    have hoptions : s.reportOptions = s'.reportOptions := by
      rw [reportOptions, reportOptions, hconfig]
    rw [value_finalize hsome, value_finalize (hengine ▸ hsome), Option.map_some, Option.map_some,
      hreport, hreport, htally, hoptions, hkind]
    exact ⟨rfl, untimed_eq_iff.mpr ⟨hconfig, hengine, rfl, rfl⟩⟩

/-- **One operation.**  Strippers that are equal but for their times do it alike, and are equal but
for their times afterwards. -/
theorem perform_alike [Pattern.Capacity] {s s' : Stripper} (hs : s.untimed = s'.untimed)
    {op op' : Operation} (hop : op.Alike s.config op') :
    (s.perform op).value.1.untimed = (s'.perform op').value.1.untimed ∧
      (s.perform op).value.2.untimed = (s'.perform op').value.2.untimed := by
  obtain ⟨hconfig, hengine, htally, hkind⟩ := untimed_eq_iff.mp hs
  cases hop with
  | prepare hcatalogs h assetBundles =>
    -- What has been there before does not matter.
    simp only [perform, Logged.value_bind, Logged.value_pure, value_prepare_congr hcatalogs,
      value_prepare_of_config_eq hconfig, and_self]
  | process c time time' =>
    obtain ⟨hleft, houtcome, hafter⟩ := process_alike hs c
    simp only [perform, Logged.value_bind, Logged.value_pure, untimed_spend, hleft, houtcome,
      hafter, and_self]
  | @absorb shard shard' hshard =>
    refine ⟨rfl, untimed_eq_iff.mpr ⟨hconfig, hengine, ?_, hkind⟩⟩
    simp only [perform, absorb, Logged.value_pure]
    rw [← Tally.merge_untimed, htally, hshard, Tally.merge_untimed]
  | finalize buildTime buildTime' today today' d d' =>
    obtain ⟨hreport, hafter⟩ := finalize_alike hs buildTime buildTime' today today' d d'
    simp only [perform, Logged.value_bind, Logged.value_pure, Answer.untimed, hreport, hafter,
      and_self]

/-- What can be seen of operations without their times. -/
def untimedAnswers (answers : List (Answer × Tally)) : List (Answer × Tally) :=
  answers.map fun a => (a.1.untimed, a.2.untimed)

/-- **Any operations.**  Strippers that are equal but for their times do them alike. -/
theorem performAll_alike [Pattern.Capacity] {s s' : Stripper} (hs : s.untimed = s'.untimed)
    {ops ops' : List Operation} (hops : List.Forall₂ (Operation.Alike s.config) ops ops') :
    untimedAnswers (s.performAll ops).value.1 = untimedAnswers (s'.performAll ops').value.1 := by
  generalize hc : s.config = c at hops
  induction hops generalizing s s' with
  | nil => rfl
  | @cons op op' ops ops' hop _ ih =>
    subst hc
    obtain ⟨hanswer, hafter⟩ := perform_alike hs hop
    have hrest := ih hafter (s.config_perform op)
    have htally : (s.perform op).value.2.tally.untimed = (s'.perform op').value.2.tally.untimed :=
      (untimed_eq_iff.mp hafter).2.2.1
    simp only [performAll, Logged.value_bind, Logged.value_pure]
    simp only [untimedAnswers, List.map_cons, hanswer, htally] at hrest ⊢
    rw [hrest]

/-! ### Without an engine -/

/-- The stripper is idle: it leaves passes alone, does not record them, and reports nothing. -/
structure Idle (s : Stripper) : Prop where
  isEnabled : s.isEnabled = false
  process : ∀ c : PassCall, (s.process c.host c.shader c.snippet c.candidates).value =
    (c.candidates, ⟨c.candidates.length, 0⟩, s)
  finalize : ∀ buildTime today d, (s.finalize buildTime today d).value = (none, s, d)

theorem idle_of_engine_eq_none {s : Stripper} (hengine : s.engine = none) : s.Idle where
  isEnabled := by rw [Stripper.isEnabled, hengine]; rfl
  process := value_process_of_none hengine
  finalize := value_finalize_of_none hengine

/-- Only preparing makes an engine. -/
theorem engine_perform_of_none [Pattern.Capacity] {s : Stripper} (hengine : s.engine = none)
    {op : Operation} (hop : op.isPrepare = false) : (s.perform op).value.2.engine = none := by
  cases op with
  | prepare d h assetBundles => cases hop
  | process c time =>
    simp only [perform, Logged.value_bind, Logged.value_pure, value_process_of_none hengine]
    exact hengine
  | absorb shard => exact hengine
  | finalize buildTime today d =>
    simp only [perform, Logged.value_bind, Logged.value_pure, value_finalize_of_none hengine]
    exact hengine

/-- Without an engine a stripper stays idle until it is prepared again. -/
theorem idle_performAll [Pattern.Capacity] {s : Stripper} (hengine : s.engine = none)
    {ops : List Operation} (hops : ∀ op ∈ ops, op.isPrepare = false) :
    (s.performAll ops).value.2.Idle := by
  induction ops generalizing s with
  | nil => exact idle_of_engine_eq_none hengine
  | cons op ops ih =>
    rw [List.forall_mem_cons] at hops
    simp only [performAll, Logged.value_bind, Logged.value_pure]
    exact ih (engine_perform_of_none hengine hops.1) hops.2

/-- After a failure, as without enabled rules, there is no engine, and nothing is counted. -/
theorem prepare_of_no_rules [Pattern.Capacity] {s : Stripper} {d : Disk} {h : Host}
    {assetBundles : Bool}
    (hnone : (s.prepare d h assetBundles).value.1 ≠ .ok () ∨ s.config.settings.enabledRules = []) :
    (s.prepare d h assetBundles).value.2 =
      { config := s.config, kind := .ofFlag assetBundles } := by
  by_cases hok : (s.prepare d h assetBundles).value.1 = .ok ()
  · obtain ⟨ready, hready, hprepared⟩ := prepare_ok hok
    rw [hnone.resolve_left (not_not_intro hok), List.forall₂_nil_left_iff] at hready
    rw [hprepared, hready]
    rfl
  · rw [prepare] at hok ⊢
    simp only [Logged.value_bind] at hok ⊢
    cases hengine : (engineFor s.config (.ofFlag assetBundles) d h).value with
    | error e => rfl
    | ok engine =>
      rw [hengine] at hok
      exact absurd rfl hok

end Stripper

open Stripper in
/-- **Preparing erases the history.**  Two strippers of one configuration have been asked to do
anything, in any order.  When they are prepared for the same host with the same catalogs, preparing
leads to the same for both, and after it they answer alike, and count alike, whatever they are asked
to do.  After a failure, as without enabled rules, nothing is counted and the stripper is idle until
it is prepared again. -/
theorem prepare_erases_history [Pattern.Capacity] (c : StripperConfig) (past past' : List Operation)
    {d d' : Disk} (hcatalogs : c.SameCatalogs d d') (h : Host) (assetBundles : Bool)
    {later later' : List Operation} (hlater : List.Forall₂ (Operation.Alike c) later later') :
    let s := (performAll { config := c } past).value.2
    let s' := (performAll { config := c } past').value.2
    let prepared := (s.prepare d h assetBundles).value
    let prepared' := (s'.prepare d' h assetBundles).value
    prepared = prepared' ∧
      untimedAnswers (prepared.2.performAll later).value.1 =
        untimedAnswers (prepared'.2.performAll later').value.1 ∧
      (prepared.1 ≠ .ok () ∨ c.settings.enabledRules = [] →
        prepared.2.tally = {} ∧
          ∀ rest : List Operation, (∀ op ∈ rest, op.isPrepare = false) →
            (prepared.2.performAll rest).value.2.Idle) := by
  intro s s' prepared prepared'
  have hs : s.config = c := config_performAll { config := c } past
  have hs' : s'.config = c := config_performAll { config := c } past'
  have hprepared : prepared = prepared' := by
    have hsame : s.config.SameCatalogs d d' := by rwa [hs]
    exact (value_prepare_congr hsame h assetBundles).trans
      (value_prepare_of_config_eq (hs.trans hs'.symm) d' h assetBundles)
  have hconfig : prepared.2.config = c := (s.config_prepare d h assetBundles).trans hs
  refine ⟨hprepared, ?_, fun hnone => ?_⟩
  · refine performAll_alike (by rw [hprepared]) ?_
    rwa [hconfig]
  · rw [← hs] at hnone
    have hfresh := prepare_of_no_rules hnone
    refine ⟨congrArg Stripper.tally hfresh, fun rest hrest => ?_⟩
    exact idle_performAll (congrArg Stripper.engine hfresh) hrest

/-- A stripper with a rule on one catalog. -/
def coastConfig : StripperConfig where
  settings := { rules := [{ spec := .includeVariantCatalog { catalogs := [⟨"c.json"⟩] } }] }

/-- A host with one shader. -/
def coastHost : Host := .ofList [{ name := "Coast" }]

/-- A build that is never ended. -/
def coastPast : List Stripper.Operation :=
  [.prepare {} coastHost false,
    .process ⟨coastHost, ⟨0⟩, ⟨.normal, "P"⟩, [⟨["A"], .d3d, .tier1⟩]⟩ 7]

/-- A disk with a catalog that is malformed, and another file. -/
def coastDisk (other : String) : Disk where
  entries := [(["c.json"], .file "["), (["d.json"], .file other)]

open Stripper in
theorem prepare_erases_history_coast :
    coastConfig.SameCatalogs (coastDisk "") (coastDisk "[]") ∧
      (performAll { config := coastConfig } coastPast).value.2.isEnabled = true ∧
      (performAll { config := coastConfig } coastPast).value.2.tally.stripped = 1 ∧
      ((performAll { config := coastConfig } coastPast).value.2.prepare (coastDisk "") coastHost
          true).value =
        ((performAll { config := coastConfig } []).value.2.prepare (coastDisk "[]") coastHost
          true).value ∧
      ((performAll { config := coastConfig } coastPast).value.2.prepare (coastDisk "") coastHost
        true).value.2.Idle := by
  have hcatalogs : coastConfig.SameCatalogs (coastDisk "") (coastDisk "[]") := by
    intro p hp
    rw [List.mem_singleton.mp hp]
    rfl
  obtain ⟨hsame, -, hidle⟩ :=
    prepare_erases_history coastConfig coastPast [] hcatalogs coastHost true .nil
  refine ⟨hcatalogs, by decide +kernel, by decide +kernel, hsame, ?_⟩
  exact (hidle (.inl (by decide +kernel))).2 [] (by simp)

end VariantStrip
