/-
Rules that answer, and builds in which no rule fails.

Only a rule on catalogs can fail to answer, and only as long as its catalogs are not loaded:

* `BuiltRule.answers_voter_iff` — a rule answers every question if and only if it is loaded,
* `Voter.ask_of_answers` — asking such a rule gives its answer, and nothing is reported,
* `Engine.unfailing_process` — rules that answer process any pass without a failure,
* `Stripper.perform_loaded` — loaded rules stay loaded, whatever a stripper is asked to do, and on
  the way no rule fails.

The main result is `Stripper.performAll_loaded`, for any operations in a row.
-/
import VariantStrip.Proofs.History
import VariantStrip.Proofs.Votes

namespace VariantStrip

/-! ### Answers -/

namespace Voter

/-- What a rule answers to a question. -/
def answer (v : Voter) (c : Context) : Question → Except StripError Bool
  | .scope => v.inScope c
  | .inclusion => v.votesInclude c
  | .stripping => v.votesStrip c

/-- The rule has an answer to every question about every candidate. -/
def Answers (v : Voter) : Prop := ∀ c q, ∃ b, v.answer c q = .ok b

/-- Asking a rule that answers gives its answer, and nothing is reported. -/
theorem ask_of_answers {v : Voter} (hv : v.Answers) (c : Context) (q : Question) :
    ∃ b, v.answer c q = .ok b ∧ v.ask q c = pure b := by
  obtain ⟨b, hb⟩ := hv c q
  refine ⟨b, hb, ?_⟩
  cases q with
  | scope | inclusion | stripping =>
    rw [answer] at hb
    rw [ask, hb]

theorem log_askIf_of_answers {v : Voter} (hv : v.Answers) (takesPart otherwise : Bool)
    (q : Question) (c : Context) : (v.askIf takesPart otherwise q c).log = [] := by
  obtain ⟨b, -, hask⟩ := ask_of_answers hv c q
  rw [askIf, hask]
  cases takesPart <;> rfl

end Voter

/-- Rules that answer decide without a message. -/
theorem log_decideFrom_of_answers {vs : List Voter} (hvs : ∀ v ∈ vs, v.Answers) (c : Context)
    (i : Nat) (includedBy : Option Nat) : (decideFrom c i includedBy vs).log = [] := by
  induction vs generalizing i includedBy with
  | nil => rfl
  | cons v vs ih =>
    rw [List.forall_mem_cons] at hvs
    have hquiet := Voter.log_askIf_of_answers hvs.1
    have hrest := ih hvs.2
    rw [decideFrom]
    simp only [Logged.log_bind, hquiet, List.nil_append]
    -- A rule out of scope is passed over, and a rule that strips is the last one asked.
    split
    · simp only [Logged.log_bind, hquiet, List.nil_append]
      split
      · rfl
      · exact hrest _ _
    · exact hrest _ _

theorem Engine.log_decide_of_answers {e : Engine} (he : ∀ v ∈ e.rules, v.Answers) (c : Context) :
    (e.decide c).log = [] := by
  rw [decide]
  split
  · rfl
  · exact log_decideFrom_of_answers he c 0 none

/-! ### Messages about rules that fail -/

/-- The message says that a rule could not answer. -/
def Message.IsFailure : Message → Prop
  | questionFailed .. => True
  | _ => False

namespace Logged

variable {α β : Type}

/-- On the way to the value no rule failed to answer. -/
def Unfailing (x : Logged α) : Prop := ∀ m ∈ x.log, ¬ m.IsFailure

theorem unfailing_of_log_eq_nil {x : Logged α} (h : x.log = []) : x.Unfailing := by
  intro m hm
  rw [h] at hm
  cases hm

theorem unfailing_pure (a : α) : (pure a : Logged α).Unfailing := unfailing_of_log_eq_nil rfl

theorem unfailing_say {m : Message} (hm : ¬ m.IsFailure) : (say m).Unfailing :=
  List.forall_mem_singleton.mpr hm

theorem Unfailing.bind {x : Logged α} {f : α → Logged β} (hx : x.Unfailing)
    (hf : (f x.value).Unfailing) : (x >>= f).Unfailing := by
  intro m hm
  rw [log_bind, List.mem_append] at hm
  exact hm.elim (hx m) (hf m)

theorem unfailing_foldlM {f : β → α → Logged β} (hf : ∀ b a, (f b a).Unfailing) (xs : List α)
    (b : β) : (xs.foldlM f b).Unfailing := by
  induction xs generalizing b with
  | nil => exact unfailing_pure b
  | cons x xs ih =>
    rw [List.foldlM_cons]
    exact (hf b x).bind (ih _)

end Logged

open Logged

theorem unfailing_loadCatalogs (d : Disk) (ps : List Path) : (loadCatalogs d ps).Unfailing := by
  induction ps with
  | nil => exact unfailing_pure _
  | cons p ps ih =>
    unfold loadCatalogs
    cases Catalog.load d p with
    | error e => exact unfailing_pure _
    | ok found =>
      cases found with
      | none => exact (unfailing_say id).bind ih
      | some c => exact ih.bind (unfailing_pure _)

theorem ReferenceIndex.unfailing_ofCatalogs (h : Host) (catalogs : List Catalog) :
    (ofCatalogs h catalogs).Unfailing := by
  have hentry (x : ReferenceIndex) (entry : CatalogShader) : (addEntry h x entry).Unfailing := by
    rw [addEntry]
    cases h.find? entry.shader with
    | none => exact (unfailing_say id).bind (unfailing_pure _)
    | some shader => exact unfailing_pure _
  exact (unfailing_foldlM hentry _ _).bind ((unfailing_say id).bind (unfailing_pure _))

theorem CatalogRule.unfailing_prepare (r : CatalogRule) (d : Disk) (h : Host) :
    (r.prepare d h).Unfailing := by
  rw [prepare]
  refine (unfailing_loadCatalogs d r.sources).bind ?_
  cases (loadCatalogs d r.sources).value with
  | error e => exact unfailing_pure _
  | ok catalogs => exact (ReferenceIndex.unfailing_ofCatalogs h _).bind (unfailing_pure _)

theorem BuiltRule.unfailing_prepare (rule : BuiltRule) (d : Disk) (h : Host) :
    (rule.prepare d h).Unfailing := by
  cases rule with
  | variantCatalog r => exact (r.unfailing_prepare d h).bind (unfailing_pure _)
  | _ => exact unfailing_pure _

theorem Engine.unfailing_prepareRules (d : Disk) (h : Host) (rs : List DescribedRule) :
    (prepareRules d h rs).Unfailing := by
  induction rs with
  | nil => exact unfailing_pure _
  | cons r rs ih =>
    rw [prepareRules]
    refine (r.rule.unfailing_prepare d h).bind ?_
    cases (r.rule.prepare d h).value with
    | error e => exact unfailing_pure _
    | ok rule => exact ih.bind (unfailing_pure _)

theorem Report.unfailing_save (r : Report) (folder : Path) (today : Date) (d : Disk) :
    (r.save folder today d).Unfailing := by
  rw [save]
  split
  · exact (unfailing_say id).bind (unfailing_pure _)
  · generalize d.createFolders folder = made
    obtain ⟨outcome, d⟩ := made
    cases outcome with
    | error fault => exact unfailing_pure _
    | ok u =>
      dsimp only
      cases d.write (folder.join ⟨r.fileName today⟩) r.text with
      | error fault => exact unfailing_pure _
      | ok d => exact unfailing_pure _

/-! ### The engine -/

namespace Engine

variable {e : Engine} (he : ∀ v ∈ e.rules, v.Answers) (h : Host) (shader : ShaderId)
  (snippet : Snippet)

include he

theorem unfailing_processOne (key : String) (slot : Nat) (x : Candidate) (o : Outcome) (t : Tally) :
    (e.processOne h shader snippet (e.bypasses h shader) key slot x o t).Unfailing := by
  rw [processOne, ← decide_context]
  refine (unfailing_of_log_eq_nil (log_decide_of_answers he _)).bind ?_
  -- A candidate that is stripped is reported, which is no failure.
  cases (e.decide (e.context h shader snippet x)).value with
  | stripped i => exact ((unfailing_say id).bind (unfailing_pure _)).bind (unfailing_pure _)
  | alwaysIncluded => exact (unfailing_pure _).bind (unfailing_pure _)
  | kept includedBy => exact (unfailing_pure _).bind (unfailing_pure _)

theorem unfailing_processAll (key : String) (slot : Nat) (xs : List Candidate) (o : Outcome)
    (t : Tally) :
    (e.processAll h shader snippet (e.bypasses h shader) key slot xs o t).Unfailing := by
  induction xs generalizing o t with
  | nil => exact unfailing_pure _
  | cons x xs ih =>
    rw [processAll]
    exact (unfailing_processOne he h shader snippet key slot x o t).bind
      ((ih _ _).bind (unfailing_pure _))

/-- **Processing a pass** with rules that answer. -/
theorem unfailing_process (xs : List Candidate) (t : Tally) :
    (e.process h shader snippet xs t).Unfailing :=
  unfailing_processAll he h shader snippet _ _ xs {} _

end Engine

/-! ### Loaded rules -/

namespace BuiltRule

/-- What the rule needs has been loaded. -/
def IsLoaded : BuiltRule → Prop
  | variantCatalog r => r.index ≠ none
  | _ => True

/-- **A rule answers every question** if and only if it is loaded. -/
theorem answers_voter_iff (rule : BuiltRule) (description : String) :
    (rule.voter description).Answers ↔ rule.IsLoaded := by
  cases rule with
  | variantCatalog r =>
    constructor
    · intro hanswers hindex
      -- Before its catalogs are loaded, the rule fails to vote on any candidate whatsoever.
      obtain ⟨b, hb⟩ := hanswers ⟨{}, ⟨0⟩, "", ⟨.normal, ""⟩, ⟨[], .d3d, .tier1⟩, false⟩ .inclusion
      have hkeeps : r.keeps _ = .ok b := hb
      rw [CatalogRule.keeps, hindex] at hkeeps
      cases hkeeps
    · intro hloaded c q
      obtain ⟨x, hx⟩ := Option.ne_none_iff_exists'.mp hloaded
      obtain ⟨b, hb⟩ : ∃ b, r.keeps c = .ok b := by
        rw [CatalogRule.keeps, hx]
        dsimp only
        cases x.find c.shader (.ofList c.candidate.keywords) r.matchWithoutLocalKeywords with
        | matched | notMatched | shaderAbsent => exact ⟨_, rfl⟩
      cases q with
      | scope => exact ⟨true, rfl⟩
      | inclusion => exact ⟨b, hb⟩
      | stripping => exact ⟨!b, congrArg (Except.map (!·)) hb⟩
  | _ =>
    refine iff_of_true (fun c q => ?_) trivial
    cases q with
    | scope | inclusion | stripping => exact ⟨_, rfl⟩

/-- Preparing a rule loads what it needs. -/
theorem isLoaded_of_prepare {rule ready : BuiltRule} {d : Disk} {h : Host}
    (hready : (rule.prepare d h).value = .ok ready) : ready.IsLoaded := by
  cases rule with
  | variantCatalog r =>
    obtain ⟨loaded, hloaded, rfl⟩ := map_eq_ok_iff.mp hready
    rw [CatalogRule.prepare] at hloaded
    simp only [value_bind] at hloaded
    cases hcatalogs : (loadCatalogs d r.sources).value with
    | error e =>
      rw [hcatalogs] at hloaded
      cases hloaded
    | ok catalogs =>
      rw [hcatalogs] at hloaded
      cases hloaded
      exact Option.some_ne_none _
  | _ =>
    cases hready
    trivial

end BuiltRule

namespace Stripper

/-- The rules of the current build, if there are any, answer every question. -/
def Loaded (s : Stripper) : Prop := ∀ e, s.engine = some e → ∀ v ∈ e.rules, v.Answers

theorem loaded_of_engine_eq_none {s : Stripper} (hengine : s.engine = none) : s.Loaded := by
  intro e he
  rw [hengine] at he
  cases he

theorem loaded_engineOf [Pattern.Capacity] (c : StripperConfig) {d : Disk} {h : Host}
    {rules : List Rule} {ready : List DescribedRule}
    (hready : List.Forall₂ (Readied c.build d h) rules ready) :
    ∀ e, engineOf c ready = some e → ∀ v ∈ e.rules, v.Answers := by
  intro e he v hv
  rw [engineOf] at he
  split at he
  · cases he
  · cases he
    obtain ⟨q, hq, rfl⟩ := List.mem_map.mp hv
    obtain ⟨r, -, rule, -, hprepared⟩ := exists_of_mem_forall₂ hready hq
    exact (q.rule.answers_voter_iff q.description).mpr (BuiltRule.isLoaded_of_prepare hprepared)

theorem engine_prepare_of_error [Pattern.Capacity] {s : Stripper} {d : Disk} {h : Host}
    {assetBundles : Bool} (hfailed : (s.prepare d h assetBundles).value.1 ≠ .ok ()) :
    (s.prepare d h assetBundles).value.2.engine = none := by
  rw [prepare_of_no_rules (.inl hfailed)]

/-- Whatever preparing leads to, the rules that take part in the build are loaded. -/
theorem loaded_prepare [Pattern.Capacity] (s : Stripper) (d : Disk) (h : Host)
    (assetBundles : Bool) :
    (s.prepare d h assetBundles).value.2.Loaded := by
  by_cases hok : (s.prepare d h assetBundles).value.1 = .ok ()
  · obtain ⟨ready, hready, hprepared⟩ := prepare_ok hok
    rw [hprepared]
    exact loaded_engineOf s.config hready
  · exact loaded_of_engine_eq_none (engine_prepare_of_error hok)

theorem unfailing_prepare [Pattern.Capacity] (s : Stripper) (d : Disk) (h : Host)
    (assetBundles : Bool) :
    (s.prepare d h assetBundles).Unfailing := by
  have hengine : (engineFor s.config (.ofFlag assetBundles) d h).Unfailing := by
    rw [engineFor]
    cases Engine.buildRules s.config.build s.config.settings.rules with
    | error e => exact unfailing_pure _
    | ok built =>
      cases built with
      | nil => exact (unfailing_say id).bind (unfailing_pure _)
      | cons q qs =>
        refine (Engine.unfailing_prepareRules d h (q :: qs)).bind ?_
        cases (Engine.prepareRules d h (q :: qs)).value with
        | error e => exact unfailing_pure _
        | ok ready => exact (unfailing_say id).bind (unfailing_pure _)
  rw [prepare]
  refine hengine.bind ?_
  cases (engineFor s.config (.ofFlag assetBundles) d h).value with
  | error e => exact unfailing_pure _
  | ok engine => exact unfailing_pure _

theorem unfailing_publish (s : Stripper) (r : Report) (today : Date) (d : Disk) :
    (s.publish r today d).Unfailing := by
  rw [publish]
  cases s.config.settings.logPath with
  | none => exact (unfailing_say id).bind (unfailing_pure _)
  | some folder =>
    refine (r.unfailing_save folder today d).bind ?_
    generalize (r.save folder today d).value = saved
    obtain ⟨outcome, d⟩ := saved
    rcases outcome with cause | - | path
    · exact (unfailing_say id).bind (unfailing_pure _)
    · exact unfailing_pure _
    · exact (unfailing_say id).bind (unfailing_pure _)

/-- **One operation.**  While the rules are loaded no rule fails, and loaded rules stay loaded. -/
theorem perform_loaded [Pattern.Capacity] {s : Stripper} (hs : s.Loaded) (op : Operation) :
    (s.perform op).Unfailing ∧ (s.perform op).value.2.Loaded := by
  cases op with
  | prepare d h assetBundles =>
    exact ⟨(s.unfailing_prepare d h assetBundles).bind (unfailing_pure _),
      s.loaded_prepare d h assetBundles⟩
  | absorb shard => exact ⟨unfailing_pure _, hs⟩
  | process c time =>
    rcases Option.eq_none_or_eq_some s.engine with hnone | ⟨e, hsome⟩
    · refine ⟨?_, loaded_of_engine_eq_none (engine_perform_of_none hnone rfl)⟩
      rw [perform, process, hnone]
      exact (unfailing_pure _).bind (unfailing_pure _)
    · constructor
      · rw [perform, process, hsome]
        exact ((Engine.unfailing_process (hs e hsome) c.host c.shader c.snippet c.candidates
          s.tally).bind (unfailing_pure _)).bind (unfailing_pure _)
      · -- Only the tally is new.
        simp only [perform, value_bind, value_pure, value_process_of_some hsome, spend]
        exact hs
  | finalize buildTime today d =>
    rcases Option.eq_none_or_eq_some s.engine with hnone | ⟨e, hsome⟩
    · refine ⟨?_, loaded_of_engine_eq_none (engine_perform_of_none hnone rfl)⟩
      rw [perform, finalize, hnone]
      exact (unfailing_pure _).bind (unfailing_pure _)
    · constructor
      · rw [perform, finalize, hsome]
        exact ((unfailing_say id).bind ((s.unfailing_publish _ today d).bind
          (unfailing_pure _))).bind (unfailing_pure _)
      · simp only [perform, value_bind, value_pure, value_finalize hsome]
        exact hs

/-- **Any operations.**  While the rules are loaded no rule fails, whatever a stripper is asked to
do, and however often it is prepared again. -/
theorem performAll_loaded [Pattern.Capacity] {s : Stripper} (hs : s.Loaded) (ops : List Operation) :
    (s.performAll ops).Unfailing := by
  induction ops generalizing s with
  | nil => exact unfailing_pure _
  | cons op ops ih =>
    obtain ⟨hop, hafter⟩ := perform_loaded hs op
    rw [performAll]
    exact hop.bind ((ih hafter).bind (unfailing_pure _))

end Stripper

end VariantStrip
