/-
What is logged of rules that fail.

While the engine decides about a candidate it asks the rules one after the other.  A rule is asked
whether it is in scope, and only then for its votes (`Voter.asked`); what it fails to answer is
logged (`Voter.warnings`):

* `log_decideFrom_cons` — of one rule its warnings are logged, and the next one is asked unless it
  strips the candidate,
* `log_decideFrom` — so the log of a decision are the warnings of the rules that are consulted,
* `decideFrom_of_agreesOn` — what other rules would have answered, and what is not asked, makes no
  difference,
* `Engine.log_process` — the log of a pass has for each candidate the warnings and, if it is
  stripped, one line that names the rule.

The main result is `failures_are_logged_once`.
-/
import VariantStrip.Proofs.Unfailing

namespace VariantStrip

/-! ### One rule -/

namespace Voter

/-- Whether the kind of the rule takes part in a question. -/
def declares (v : Voter) : Question → Bool
  | .scope => v.kind.traits.scopeGate
  | .inclusion => v.kind.traits.includeVote
  | .stripping => v.kind.traits.stripVote

/-- The questions that the rule is asked: out of scope it is not asked for its votes. -/
def asked (v : Voter) (c : Context) : List Question :=
  (if v.InScope c then [.scope, .inclusion, .stripping] else [.scope]).filter v.declares

/-- What is logged of the answer to a question, if the rule fails to answer. -/
def warning? (v : Voter) (c : Context) (q : Question) : Option Message :=
  match v.answer c q with
  | .ok _ => none
  | .error cause => some (.questionFailed v.label q cause)

/-- What is logged of a rule that is consulted. -/
def warnings (v : Voter) (c : Context) : List Message := (v.asked c).filterMap (v.warning? c)

theorem mem_asked {v : Voter} {c : Context} {q : Question} :
    q ∈ v.asked c ↔ v.declares q = true ∧ (q = .scope ∨ v.InScope c) := by
  rw [asked, List.mem_filter, and_comm]
  refine and_congr_right fun _ => ?_
  by_cases hscope : v.InScope c
  · rw [if_pos hscope]
    cases q <;> simp [hscope]
  · rw [if_neg hscope, List.mem_singleton]
    exact (or_iff_left hscope).symm

theorem ask_eq (v : Voter) (q : Question) (c : Context) :
    v.ask q c = match v.answer c q with
      | .ok b => pure b
      | .error cause => ⟨false, [.questionFailed v.label q cause]⟩ := by
  cases q <;> rfl

/-- Only a question that the kind takes part in is asked. -/
theorem log_askIf (v : Voter) (otherwise : Bool) (q : Question) (c : Context) :
    (v.askIf (v.declares q) otherwise q c).log =
      ([q].filter v.declares).filterMap (v.warning? c) := by
  rw [askIf, List.filter_singleton]
  cases v.declares q with
  | false => rfl
  | true =>
    rw [if_pos rfl, ask_eq, cond_true, List.filterMap_cons, warning?]
    cases v.answer c q <;> rfl

/-- In scope the rule is asked all three questions. -/
theorem warnings_of_inScope {v : Voter} {c : Context} (hin : v.InScope c) :
    v.warnings c =
      (v.askIf v.kind.traits.scopeGate true .scope c).log ++
        ((v.askIf v.kind.traits.includeVote false .inclusion c).log ++
          (v.askIf v.kind.traits.stripVote false .stripping c).log) := by
  have hscope := v.log_askIf true .scope c
  have hinclusion := v.log_askIf false .inclusion c
  have hstripping := v.log_askIf false .stripping c
  simp only [declares] at hscope hinclusion hstripping
  rw [hscope, hinclusion, hstripping, ← List.filterMap_append, ← List.filter_append,
    ← List.filterMap_append, ← List.filter_append, warnings, asked, if_pos hin]
  rfl

theorem warnings_of_not_inScope {v : Voter} {c : Context} (hout : ¬ v.InScope c) :
    v.warnings c = (v.askIf v.kind.traits.scopeGate true .scope c).log := by
  have hscope := v.log_askIf true .scope c
  simp only [declares] at hscope
  rw [hscope, warnings, asked, if_neg hout]

theorem mem_warnings {v : Voter} {c : Context} {m : Message} :
    m ∈ v.warnings c ↔ ∃ q ∈ v.asked c, ∃ cause, v.answer c q = .error cause ∧
      .questionFailed v.label q cause = m := by
  rw [warnings, List.mem_filterMap]
  refine exists_congr fun q => and_congr_right fun _ => ?_
  rw [warning?]
  cases v.answer c q with
  | ok b => simp
  | error cause => simp

/-! ### Rules that agree where they are asked -/

/-- A rule in place of another of the same kind and label: it answers alike to what the other one is
asked.  Nothing is said about what the other one is not asked. -/
structure AgreesOn (c : Context) (old new : Voter) : Prop where
  kind : new.kind = old.kind
  label : new.label = old.label
  answer : ∀ q ∈ old.asked c, new.answer c q = old.answer c q

namespace AgreesOn

variable {c : Context} {old new : Voter}

protected theorem refl (v : Voter) : AgreesOn c v v := ⟨rfl, rfl, fun _ _ => rfl⟩

theorem declares_eq (h : AgreesOn c old new) : new.declares = old.declares := by
  funext q
  cases q <;> simp only [declares, h.kind]

theorem inScope_iff (h : AgreesOn c old new) : new.InScope c ↔ old.InScope c := by
  rw [InScope, InScope, h.kind]
  refine imp_congr_right fun hgate => ?_
  have hanswer : new.inScope c = old.inScope c :=
    h.answer .scope (mem_asked.mpr ⟨hgate, .inl rfl⟩)
  rw [hanswer]

theorem includes_iff (h : AgreesOn c old new) : new.Includes c ↔ old.Includes c := by
  rw [Includes, Includes, h.inScope_iff, h.kind]
  refine and_congr_right fun hscope => and_congr_right fun hvote => ?_
  have hanswer : new.votesInclude c = old.votesInclude c :=
    h.answer .inclusion (mem_asked.mpr ⟨hvote, .inr hscope⟩)
  rw [hanswer]

theorem strips_iff (h : AgreesOn c old new) : new.Strips c ↔ old.Strips c := by
  rw [Strips, Strips, h.inScope_iff, h.kind]
  refine and_congr_right fun hscope => and_congr_right fun hvote => ?_
  have hanswer : new.votesStrip c = old.votesStrip c :=
    h.answer .stripping (mem_asked.mpr ⟨hvote, .inr hscope⟩)
  rw [hanswer]

theorem warnings_eq (h : AgreesOn c old new) : new.warnings c = old.warnings c := by
  have hasked : new.asked c = old.asked c := by
    simp only [asked, h.inScope_iff, h.declares_eq]
  rw [warnings, warnings, hasked]
  refine List.filterMap_congr fun q hq => ?_
  rw [warning?, warning?, h.answer q hq, h.label]

end AgreesOn

end Voter

/-! ### A list of rules -/

/-- **One rule.**  Its warnings are logged, and if it does not strip the candidate the next rule is
consulted. -/
theorem log_decideFrom_cons (c : Context) (i : Nat) (includedBy : Option Nat) (v : Voter)
    (vs : List Voter) :
    (decideFrom c i includedBy (v :: vs)).log =
      v.warnings c ++
        if v.Strips c then []
        else (decideFrom c (i + 1)
          (if v.Includes c then some (includedBy.getD i) else includedBy) vs).log := by
  rw [decideFrom]
  simp only [Logged.log_bind, Voter.value_askIf_scope]
  -- A vote to include is asked for even if the rule strips the candidate then.
  by_cases hin : v.InScope c
  · rw [Voter.warnings_of_inScope hin, if_pos (decide_eq_true hin), List.append_assoc,
      List.append_assoc]
    simp only [Logged.log_bind, Voter.value_askIf_inclusion, Voter.value_askIf_stripping,
      Voter.Strips, Voter.Includes, hin, true_and, decide_eq_true_eq]
    split <;> rfl
  · rw [Voter.warnings_of_not_inScope hin, if_neg (by simpa using hin), if_neg fun h => hin h.1,
      if_neg fun h => hin h.1]

/-- One rule as a whole: its warnings come first, and its votes say how the decision goes on. -/
theorem decideFrom_cons (c : Context) (i : Nat) (includedBy : Option Nat) (v : Voter)
    (vs : List Voter) :
    decideFrom c i includedBy (v :: vs) =
      (Logged.mk () (v.warnings c) >>= fun _ =>
        if v.Strips c then pure (.stripped i)
        else decideFrom c (i + 1) (if v.Includes c then some (includedBy.getD i) else includedBy)
          vs) := by
  have hvalue := value_decideFrom_cons c i includedBy v vs
  have hlog := log_decideFrom_cons c i includedBy v vs
  by_cases hstrips : v.Strips c
  · rw [if_pos hstrips] at hvalue hlog ⊢
    exact congrArg₂ Logged.mk hvalue hlog
  · rw [if_neg hstrips] at hvalue hlog ⊢
    exact congrArg₂ Logged.mk hvalue hlog

/-- **The log of a decision** are the warnings of the rules, if only the last one may strip the
candidate. -/
theorem log_decideFrom {c : Context} {vs : List Voter} (hvs : ∀ v ∈ vs.dropLast, ¬ v.Strips c)
    (i : Nat) (includedBy : Option Nat) :
    (decideFrom c i includedBy vs).log = vs.flatMap (·.warnings c) := by
  induction vs generalizing i includedBy with
  | nil => rfl
  | cons v vs ih =>
    rw [log_decideFrom_cons, List.flatMap_cons]
    cases vs with
    -- Nothing follows the last rule, whether it strips the candidate or not.
    | nil => exact congrArg _ (ite_self _)
    | cons w ws =>
      rw [List.dropLast_cons_cons, List.forall_mem_cons] at hvs
      rw [if_neg hvs.1, ih hvs.2]

theorem exists_of_mem_log_decideFrom {c : Context} {vs : List Voter} {i : Nat}
    {includedBy : Option Nat} {m : Message} (hm : m ∈ (decideFrom c i includedBy vs).log) :
    ∃ v ∈ vs, m ∈ v.warnings c := by
  induction vs generalizing i includedBy with
  | nil => cases hm
  | cons v vs ih =>
    rw [log_decideFrom_cons, List.mem_append] at hm
    rcases hm with hfirst | hrest
    · exact ⟨v, List.mem_cons_self, hfirst⟩
    · split at hrest
      · cases hrest
      · obtain ⟨w, hw, hmem⟩ := ih hrest
        exact ⟨w, List.mem_cons_of_mem v hw, hmem⟩

/-- Rules that agree where they are asked make the same decision, with the same log. -/
theorem decideFrom_of_agreesOn {c : Context} {vs ws : List Voter}
    (h : List.Forall₂ (Voter.AgreesOn c) vs ws) (i : Nat) (includedBy : Option Nat) :
    decideFrom c i includedBy ws = decideFrom c i includedBy vs := by
  induction h generalizing i includedBy with
  | nil => rfl
  | @cons v w vs ws hvw _ ih =>
    rw [decideFrom_cons, decideFrom_cons, hvw.warnings_eq, ih]
    simp only [hvw.strips_iff, hvw.includes_iff]

/-- After a rule that strips the candidate nothing is consulted. -/
theorem decideFrom_append {c : Context} {vs : List Voter} (hvs : ∃ v ∈ vs, v.Strips c)
    (rest : List Voter) (i : Nat) (includedBy : Option Nat) :
    decideFrom c i includedBy (vs ++ rest) = decideFrom c i includedBy vs := by
  induction vs generalizing i includedBy with
  | nil =>
    obtain ⟨v, hv, -⟩ := hvs
    cases hv
  | cons v vs ih =>
    rw [List.cons_append, decideFrom_cons, decideFrom_cons]
    by_cases hstrips : v.Strips c
    · rw [if_pos hstrips, if_pos hstrips]
    · have hrest : ∃ w ∈ vs, w.Strips c := by
        obtain ⟨w, hw, hwstrips⟩ := hvs
        refine ⟨w, (List.mem_cons.mp hw).resolve_left ?_, hwstrips⟩
        rintro rfl
        exact hstrips hwstrips
      rw [if_neg hstrips, if_neg hstrips, ih hrest]

/-! ### The first rule that strips -/

section

variable {c : Context} {vs : List Voter} {d : Nat}

theorem not_strips_of_mem_take (hd : IsLeast (positions (·.Strips c) vs) d) {v : Voter}
    (hv : v ∈ vs.take d) : ¬ v.Strips c := by
  intro hstrips
  obtain ⟨j, hj, rfl⟩ := List.mem_take_iff_getElem.mp hv
  have hle : d ≤ j := hd.2 ⟨_, List.getElem?_eq_getElem (by omega), hstrips⟩
  omega

theorem exists_strips_mem_take (hd : IsLeast (positions (·.Strips c) vs) d) :
    ∃ v ∈ vs.take (d + 1), v.Strips c := by
  obtain ⟨⟨v, hv, hstrips⟩, -⟩ := hd
  refine ⟨v, List.mem_of_getElem? (i := d) ?_, hstrips⟩
  rw [List.getElem?_take_of_lt (Nat.lt_succ_self d), hv]

/-- The rules up to the first one that strips decide. -/
theorem decideFrom_take (hd : IsLeast (positions (·.Strips c) vs) d) (i : Nat)
    (includedBy : Option Nat) :
    decideFrom c i includedBy (vs.take (d + 1)) = decideFrom c i includedBy vs := by
  conv_rhs => rw [← List.take_append_drop (d + 1) vs]
  exact (decideFrom_append (exists_strips_mem_take hd) _ i includedBy).symm

theorem log_decideFrom_of_isLeast (hd : IsLeast (positions (·.Strips c) vs) d) (i : Nat)
    (includedBy : Option Nat) :
    (decideFrom c i includedBy vs).log = (vs.take (d + 1)).flatMap (·.warnings c) := by
  obtain ⟨w, hw, -⟩ := hd.1
  have htake : vs.take (d + 1) = vs.take d ++ [w] := by
    rw [List.take_add_one, hw, Option.toList_some]
  rw [← decideFrom_take hd, log_decideFrom]
  intro v hv
  rw [htake, List.dropLast_concat] at hv
  exact not_strips_of_mem_take hd hv

end

/-! ### The engine -/

namespace Engine

theorem exists_of_mem_log_decide {e : Engine} {c : Context} {m : Message}
    (hm : m ∈ (e.decide c).log) : ∃ v ∈ e.rules, m ∈ v.warnings c := by
  rw [decide] at hm
  split at hm
  · cases hm
  · exact exists_of_mem_log_decideFrom hm

/-- Whatever is logged of a decision is a warning that names a rule and a question. -/
theorem level_and_text_of_mem_log_decide {e : Engine} {c : Context} {m : Message}
    (hm : m ∈ (e.decide c).log) :
    m.level = .warn ∧ ∃ v ∈ e.rules, ∃ q ∈ v.asked c, ∃ cause, v.answer c q = .error cause ∧
      m.text = s!"Rule '{v.label}' failed its {q.title}: {cause.message}" := by
  obtain ⟨v, hv, hmem⟩ := exists_of_mem_log_decide hm
  obtain ⟨q, hq, cause, hanswer, rfl⟩ := Voter.mem_warnings.mp hmem
  exact ⟨rfl, v, hv, q, hq, cause, hanswer, rfl⟩

theorem not_bypasses_of_stripped {e : Engine} {c : Context} {i : Nat}
    (hdecision : (e.decide c).value = .stripped i) : e.bypasses c.host c.shader = false := by
  cases hbypass : e.bypasses c.host c.shader with
  | false => rfl
  | true =>
    rw [decide, if_pos hbypass] at hdecision
    cases hdecision

variable (e : Engine) (h : Host) (shader : ShaderId) (snippet : Snippet)

/-- What is logged of a candidate that is stripped. -/
def strippedLine (key : String) (x : Candidate) : List Message :=
  match (e.decide (e.context h shader snippet x)).value with
  | .stripped i =>
    [.variantStripped key (signature x.keywords) ((e.rules[i]?.map (·.label)).getD "")]
  | _ => []

theorem log_processOne (key : String) (slot : Nat) (x : Candidate) (o : Outcome) (t : Tally) :
    (e.processOne h shader snippet (e.bypasses h shader) key slot x o t).log =
      (e.decide (e.context h shader snippet x)).log ++ e.strippedLine h shader snippet key x := by
  rw [processOne, ← decide_context, Logged.log_bind, strippedLine]
  cases (e.decide (e.context h shader snippet x)).value <;> rfl

theorem log_processAll (key : String) (slot : Nat) (xs : List Candidate) (o : Outcome)
    (t : Tally) :
    (e.processAll h shader snippet (e.bypasses h shader) key slot xs o t).log =
      xs.flatMap fun x => (e.decide (e.context h shader snippet x)).log ++
        e.strippedLine h shader snippet key x := by
  induction xs generalizing o t with
  | nil => rfl
  | cons x xs ih =>
    rw [processAll]
    simp only [Logged.log_bind, Logged.log_pure, log_processOne, ih, List.append_nil,
      List.flatMap_cons]

/-- **The log of a pass** has for each candidate what is logged of the decision and, if it is
stripped, a line on it. -/
theorem log_process (xs : List Candidate) (t : Tally) :
    (e.process h shader snippet xs t).log =
      xs.flatMap fun x => (e.decide (e.context h shader snippet x)).log ++
        e.strippedLine h shader snippet (keyOf h shader snippet) x := by
  rw [process, log_processAll]
  rfl

/-- The message says that a candidate was stripped, and names the first rule that strips it. -/
def NamesFirst (x : Candidate) (m : Message) : Prop :=
  ∃ d v, IsLeast (positions (·.Strips (e.context h shader snippet x)) e.rules) d ∧
    e.rules[d]? = some v ∧
    m = .variantStripped (keyOf h shader snippet) (signature x.keywords) v.label

theorem strippedLine_of_keeps {x : Candidate} (hkeeps : e.keeps h shader snippet x = true)
    (key : String) : e.strippedLine h shader snippet key x = [] := by
  rw [keeps] at hkeeps
  rw [strippedLine]
  cases hdecision : (e.decide (e.context h shader snippet x)).value with
  | stripped i =>
    rw [hdecision] at hkeeps
    cases hkeeps
  | alwaysIncluded | kept includedBy => rfl

theorem exists_strippedLine {x : Candidate} (hstripped : e.keeps h shader snippet x = false) :
    ∃ m, e.strippedLine h shader snippet (keyOf h shader snippet) x = [m] ∧
      e.NamesFirst h shader snippet x m := by
  rw [keeps] at hstripped
  rw [strippedLine]
  cases hdecision : (e.decide (e.context h shader snippet x)).value with
  | stripped i =>
    have hbypass := not_bypasses_of_stripped hdecision
    have hleast := (value_decide_eq_stripped_iff hbypass i).mp hdecision
    obtain ⟨v, hv, -⟩ := hleast.1
    exact ⟨_, rfl, i, v, hleast, hv, by rw [hv]; rfl⟩
  | alwaysIncluded | kept includedBy =>
    rw [hdecision] at hstripped
    cases hstripped

/-- The lines on candidates stand in their order. -/
theorem forall₂_strippedLines (xs : List Candidate) :
    List.Forall₂ (e.NamesFirst h shader snippet) (xs.filter fun x => !e.keeps h shader snippet x)
      (xs.flatMap (e.strippedLine h shader snippet (keyOf h shader snippet))) := by
  induction xs with
  | nil => exact .nil
  | cons x xs ih =>
    rw [List.flatMap_cons]
    cases hkeeps : e.keeps h shader snippet x with
    | true =>
      rwa [strippedLine_of_keeps e h shader snippet hkeeps, List.nil_append,
        List.filter_cons_of_neg (by simp [hkeeps])]
    | false =>
      obtain ⟨m, hline, hnames⟩ := exists_strippedLine e h shader snippet hkeeps
      rw [hline, List.filter_cons_of_pos (by simp [hkeeps])]
      exact .cons hnames ih

theorem level_of_mem_strippedLine {key : String} {x : Candidate} {m : Message}
    (hm : m ∈ e.strippedLine h shader snippet key x) : m.level = .trace := by
  rw [strippedLine] at hm
  split at hm
  · rw [List.mem_singleton.mp hm]
    rfl
  · cases hm

/-- The lines on candidates are what is logged of a pass for tracing. -/
theorem filter_log_process (xs : List Candidate) (t : Tally) :
    (e.process h shader snippet xs t).log.filter (·.level = .trace) =
      xs.flatMap (e.strippedLine h shader snippet (keyOf h shader snippet)) := by
  rw [log_process, List.filter_flatMap]
  refine List.flatMap_congr fun x _ => ?_
  have hwarnings :
      (e.decide (e.context h shader snippet x)).log.filter (·.level = .trace) = [] := by
    rw [List.filter_eq_nil_iff]
    intro m hm
    rw [(level_and_text_of_mem_log_decide hm).1]
    decide
  have hline : (e.strippedLine h shader snippet (keyOf h shader snippet) x).filter
      (·.level = .trace) = e.strippedLine h shader snippet (keyOf h shader snippet) x := by
    rw [List.filter_eq_self]
    intro m hm
    exact decide_eq_true (level_of_mem_strippedLine e h shader snippet hm)
  rw [List.filter_append, hwarnings, hline, List.nil_append]

end Engine

/-- **Failures are logged once.**  While the engine decides about a candidate of a shader that does
not bypass the rules,

* what is logged are, in order, the warnings of the rules up to the first one that strips the
  candidate, or of all rules if there is none,
* nothing else is consulted: with other rules in their place that answer alike to what they are
  asked, and with any rules after them, the decision and the log are the same,
* a warning names a rule by its label and a question that the rule has been asked and failed to
  answer.

While it processes a pass it logs of each candidate what is logged of the decision, and then a line
if the candidate is removed.  So there is one line for tracing for each candidate that is removed,
in the order of the candidates, with the label of the first rule that strips it. -/
theorem failures_are_logged_once (e : Engine) :
    (∀ c, e.bypasses c.host c.shader = false →
      (∀ d, IsLeast (positions (·.Strips c) e.rules) d →
        (e.decide c).log = (e.rules.take (d + 1)).flatMap (·.warnings c) ∧
        ∀ consulted, List.Forall₂ (Voter.AgreesOn c) (e.rules.take (d + 1)) consulted →
          ∀ rest, { e with rules := consulted ++ rest }.decide c = e.decide c) ∧
      ((∀ v ∈ e.rules, ¬ v.Strips c) →
        (e.decide c).log = e.rules.flatMap (·.warnings c) ∧
        ∀ consulted, List.Forall₂ (Voter.AgreesOn c) e.rules consulted →
          { e with rules := consulted }.decide c = e.decide c) ∧
      ∀ m ∈ (e.decide c).log, m.level = .warn ∧
        ∃ v ∈ e.rules, ∃ q ∈ v.asked c, ∃ cause, v.answer c q = .error cause ∧
          m.text = s!"Rule '{v.label}' failed its {q.title}: {cause.message}") ∧
    ∀ h shader snippet xs t,
      let processed := e.process h shader snippet xs t
      processed.value.1 = xs.filter (e.keeps h shader snippet) ∧
        (processed.log = xs.flatMap fun x => (e.decide (e.context h shader snippet x)).log ++
          e.strippedLine h shader snippet (Engine.keyOf h shader snippet) x) ∧
        List.Forall₂ (e.NamesFirst h shader snippet)
          (xs.filter fun x => !e.keeps h shader snippet x)
          (processed.log.filter (·.level = .trace)) := by
  constructor
  · intro c hbypass
    -- Whether the shader bypasses the rules does not depend on the rules.
    have hdecide (vs : List Voter) :
        Engine.decide { e with rules := vs } c = decideFrom c 0 none vs :=
      Engine.decide_of_not_bypasses (e := { e with rules := vs }) hbypass
    refine ⟨?_, ?_, fun m hm => Engine.level_and_text_of_mem_log_decide hm⟩ <;>
      rw [Engine.decide_of_not_bypasses hbypass]
    · refine fun d hd => ⟨log_decideFrom_of_isLeast hd 0 none, fun consulted hagree rest => ?_⟩
      have hrest : List.Forall₂ (Voter.AgreesOn c) (e.rules.take (d + 1) ++ rest)
          (consulted ++ rest) :=
        List.rel_append hagree (List.forall₂_same.mpr fun v _ => .refl v)
      rw [hdecide, decideFrom_of_agreesOn hrest, decideFrom_append (exists_strips_mem_take hd),
        decideFrom_take hd]
    · refine fun hnone => ⟨?_, fun consulted hagree => ?_⟩
      · exact log_decideFrom (fun v hv => hnone v (List.dropLast_subset _ hv)) 0 none
      · rw [hdecide, decideFrom_of_agreesOn hagree]
  · intro h shader snippet xs t processed
    refine ⟨e.value_process_fst h shader snippet xs t, e.log_process h shader snippet xs t, ?_⟩
    rw [e.filter_log_process h shader snippet xs t]
    exact e.forall₂_strippedLines h shader snippet xs

/-- A context with a candidate for some platform. -/
def weirContext (platform : Platform) : Context where
  host := .ofList [{ name := "Weir" }]
  shader := ⟨0⟩
  shaderName := "Weir"
  snippet := ⟨.normal, "P"⟩
  candidate := ⟨["A"], platform, .tier1⟩
  development := false

/-- A rule that fails to answer whatever it is asked. -/
def weirRule (kind : RuleKind) (description : String) : Voter where
  kind
  description
  inScope := fun _ => .error (.host "scope")
  votesInclude := fun _ => .error (.host "include")
  votesStrip := fun _ => .error (.host "strip")

/-- A rule whose gate fails, one whose votes fail, one that strips what is built for one platform,
and one that is not consulted then. -/
def weirEngine : Engine where
  rules := [
    weirRule .stripHiddenShaders "", weirRule .includeVariantCatalog "known",
    { kind := .stripPlatforms, votesStrip := fun c => .ok (c.candidate.platform == .ps4) },
    weirRule .stripKeywords "words"]

/-- Of two candidates the second one is removed.  The rule that is not consulted about it may be
left out. -/
theorem failures_are_logged_once_weir :
    (weirEngine.decide (weirContext .ps4)).log =
        [.questionFailed "Strip Hidden Shaders" .scope (.host "scope"),
          .questionFailed "known" .inclusion (.host "include"),
          .questionFailed "known" .stripping (.host "strip")] ∧
      (weirEngine.decide (weirContext .d3d)).log =
        [.questionFailed "Strip Hidden Shaders" .scope (.host "scope"),
          .questionFailed "known" .inclusion (.host "include"),
          .questionFailed "known" .stripping (.host "strip"),
          .questionFailed "words" .stripping (.host "strip")] ∧
      { weirEngine with rules := weirEngine.rules.take 3 }.decide (weirContext .ps4) =
        weirEngine.decide (weirContext .ps4) ∧
      ((weirEngine.process (weirContext .ps4).host ⟨0⟩ ⟨.normal, "P"⟩
        [(weirContext .d3d).candidate, (weirContext .ps4).candidate] {}).log.filter
          (·.level = .trace)).length = 1 := by
  obtain ⟨hdecide, hprocess⟩ := failures_are_logged_once weirEngine
  obtain ⟨hstripped, -, -⟩ := hdecide (weirContext .ps4) (by decide)
  obtain ⟨-, hkept, -⟩ := hdecide (weirContext .d3d) (by decide)
  have hleast : IsLeast (positions (·.Strips (weirContext .ps4)) weirEngine.rules) 2 :=
    firstPosition?_eq_some_iff.mp (by decide)
  obtain ⟨hlog, hrest⟩ := hstripped 2 hleast
  have hagree : List.Forall₂ (Voter.AgreesOn (weirContext .ps4)) (weirEngine.rules.take 3)
      (weirEngine.rules.take 3) := List.forall₂_same.mpr fun v _ => .refl v
  have hsame := hrest _ hagree []
  obtain ⟨-, -, hlines⟩ := hprocess (weirContext .ps4).host ⟨0⟩ ⟨.normal, "P"⟩
    [(weirContext .d3d).candidate, (weirContext .ps4).candidate] {}
  refine ⟨hlog.trans (by decide), (hkept (by decide)).1.trans (by decide), ?_, ?_⟩
  · rwa [List.append_nil] at hsame
  · exact hlines.length_eq.symm.trans (by decide)

end VariantStrip
