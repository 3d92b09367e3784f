/-
What the engine decides, and what it counts.

A rule takes part in a decision through three questions; `Voter.InScope`, `Voter.Includes` and
`Voter.Strips` say what its answers amount to.  Then:

* `value_decideFrom` — the first rule that strips a variant decides, and without one the first rule
  that includes it is remembered,
* `Engine.keeps_iff` — a variant is kept if its shader bypasses the rules or no rule strips it,
* `Engine.value_processAll` — the loop over the candidates of a pass decides about each of them as
  if it were the only one (`Engine.decide_context`),
* `Engine.value_process` — processing a pass filters its candidates by `Engine.keeps`, and adds one
  record to the tally (`Engine.recordOf`).
-/
import Mathlib.Data.Option.Basic
import VariantStrip.Engine
import VariantStrip.Proofs.Tally

namespace VariantStrip

/-! ### Votes -/

namespace Voter

/-- The rule has an opinion: its kind declares no scope gate, or the rule says so. -/
def InScope (v : Voter) (c : Context) : Prop :=
  v.kind.traits.scopeGate = true → v.inScope c = .ok true

/-- The rule votes to keep the variant. -/
def Includes (v : Voter) (c : Context) : Prop :=
  v.InScope c ∧ v.kind.traits.includeVote = true ∧ v.votesInclude c = .ok true

/-- The rule votes to strip the variant. -/
def Strips (v : Voter) (c : Context) : Prop :=
  v.InScope c ∧ v.kind.traits.stripVote = true ∧ v.votesStrip c = .ok true

instance (v : Voter) (c : Context) : Decidable (v.InScope c) :=
  inferInstanceAs (Decidable (_ → _))

instance (v : Voter) (c : Context) : Decidable (v.Includes c) :=
  inferInstanceAs (Decidable (_ ∧ _))

instance (v : Voter) (c : Context) : Decidable (v.Strips c) :=
  inferInstanceAs (Decidable (_ ∧ _))

theorem value_askIf_scope (v : Voter) (c : Context) :
    (v.askIf v.kind.traits.scopeGate true .scope c).value = decide (v.InScope c) := by
  rw [askIf, ask]
  by_cases hgate : v.kind.traits.scopeGate = true
  · rcases hanswer : v.inScope c with e | b
    · simp [InScope, hgate, hanswer]
    · simp [InScope, hgate, hanswer]
  · simp [InScope, hgate]

theorem value_askIf_inclusion (v : Voter) (c : Context) :
    (v.askIf v.kind.traits.includeVote false .inclusion c).value =
      decide (v.kind.traits.includeVote = true ∧ v.votesInclude c = .ok true) := by
  rw [askIf, ask]
  by_cases hvote : v.kind.traits.includeVote = true
  · rcases v.votesInclude c with e | b <;> simp [hvote]
  · simp [hvote]

theorem value_askIf_stripping (v : Voter) (c : Context) :
    (v.askIf v.kind.traits.stripVote false .stripping c).value =
      decide (v.kind.traits.stripVote = true ∧ v.votesStrip c = .ok true) := by
  rw [askIf, ask]
  by_cases hvote : v.kind.traits.stripVote = true
  · rcases v.votesStrip c with e | b <;> simp [hvote]
  · simp [hvote]

end Voter

/-! ### The decision of a list of rules -/

/-- One rule: its vote to strip ends the decision, and its vote to include is remembered if it is
the first one. -/
theorem value_decideFrom_cons (c : Context) (i : Nat) (includedBy : Option Nat) (v : Voter)
    (vs : List Voter) :
    (decideFrom c i includedBy (v :: vs)).value =
      if v.Strips c then .stripped i
      else (decideFrom c (i + 1)
        (if v.Includes c then some (includedBy.getD i) else includedBy) vs).value := by
  rw [decideFrom]
  simp only [Logged.value_bind, Voter.value_askIf_scope]
  -- Out of scope a rule is asked nothing else, and it neither strips nor includes.
  by_cases hscope : v.InScope c
  · rw [if_pos (by simpa using hscope)]
    simp only [Logged.value_bind, Voter.value_askIf_inclusion, Voter.value_askIf_stripping,
      Voter.Strips, Voter.Includes, hscope, true_and, decide_eq_true_eq]
    by_cases hstrip : v.kind.traits.stripVote = true ∧ v.votesStrip c = .ok true
    · rw [if_pos hstrip, if_pos hstrip]
      rfl
    · rw [if_neg hstrip, if_neg hstrip]
  · rw [if_neg (by simpa using hscope), if_neg fun h => hscope h.1, if_neg fun h => hscope h.1]

/-- The first rule that strips a variant decides about it.  If there is none the variant is kept,
and the first rule that includes it is remembered. -/
theorem value_decideFrom (c : Context) (i : Nat) (includedBy : Option Nat) (vs : List Voter) :
    (decideFrom c i includedBy vs).value =
      match vs.findIdx? fun v => decide (v.Strips c) with
      | some j => .stripped (i + j)
      | none =>
        .kept (includedBy.or ((vs.findIdx? fun v => decide (v.Includes c)).map (i + ·))) := by
  induction vs generalizing i includedBy with
  | nil => simp [decideFrom]
  | cons v vs ih =>
    rw [value_decideFrom_cons, ih, List.findIdx?_cons, List.findIdx?_cons]
    by_cases hstrip : v.Strips c
    · simp [hstrip]
    · simp only [hstrip, if_false, decide_false, Bool.false_eq_true]
      -- The rest counts its rules from `i + 1`.
      cases vs.findIdx? fun v => decide (v.Strips c) with
      | none =>
        by_cases hinclude : v.Includes c
        · cases includedBy <;> simp [hinclude]
        · cases includedBy <;>
            simp [hinclude, Function.comp_def, Nat.add_assoc, Nat.add_comm 1]
      | some j => simp [Nat.add_assoc, Nat.add_comm 1]

/-- A variant is kept if and only if no rule strips it. -/
theorem isKept_decideFrom (c : Context) (i : Nat) (includedBy : Option Nat) (vs : List Voter) :
    (decideFrom c i includedBy vs).value.isKept = true ↔ ∀ v ∈ vs, ¬ v.Strips c := by
  rw [value_decideFrom]
  cases hj : vs.findIdx? fun v => decide (v.Strips c) with
  | none => simpa [Decision.isKept] using hj
  | some j =>
    obtain ⟨hlt, hstrips, -⟩ := List.findIdx?_eq_some_iff_getElem.mp hj
    refine iff_of_false (by simp [Decision.isKept]) fun h => ?_
    exact h _ (List.getElem_mem hlt) (by simpa using hstrips)

/-! ### The engine -/

/-- The outcome with one more variant that is kept or stripped. -/
def Outcome.count (o : Outcome) (isKept : Bool) : Outcome where
  kept := if isKept then o.kept + 1 else o.kept
  stripped := if isKept then o.stripped else o.stripped + 1

namespace Engine

/-- Whether the engine keeps a candidate of a pass. -/
def keeps (e : Engine) (h : Host) (shader : ShaderId) (snippet : Snippet) (x : Candidate) : Bool :=
  (e.decide (e.context h shader snippet x)).value.isKept

/-- **A candidate is kept** if its shader bypasses the rules or no rule strips it. -/
theorem keeps_iff (e : Engine) (h : Host) (shader : ShaderId) (snippet : Snippet)
    (x : Candidate) :
    e.keeps h shader snippet x = true ↔
      e.bypasses h shader = true ∨ ∀ v ∈ e.rules, ¬ v.Strips (e.context h shader snippet x) := by
  rw [keeps, decide]
  by_cases hbypass : e.bypasses h shader = true
  · have hbypass' : e.bypasses (e.context h shader snippet x).host
        (e.context h shader snippet x).shader = true := hbypass
    rw [if_pos hbypass']
    simp [hbypass, Decision.isKept]
  · have hbypass' : ¬ e.bypasses (e.context h shader snippet x).host
        (e.context h shader snippet x).shader = true := hbypass
    rw [if_neg hbypass', isKept_decideFrom]
    simp [hbypass]

/-- What is counted of some candidates: their signatures, and whether they are kept. -/
def decisions (e : Engine) (h : Host) (shader : ShaderId) (snippet : Snippet)
    (xs : List Candidate) : List (String × Bool) :=
  xs.map fun x => (signature x.keywords, e.keeps h shader snippet x)

/-- The key of a pass. -/
def keyOf (h : Host) (shader : ShaderId) (snippet : Snippet) : String :=
  passKey (h.nameOf shader) snippet.passType snippet.passName

/-- What is counted of a pass. -/
def recordOf (e : Engine) (h : Host) (shader : ShaderId) (snippet : Snippet)
    (xs : List Candidate) : PassRecord :=
  ⟨keyOf h shader snippet, e.decisions h shader snippet xs⟩

/-- It is found out once for a pass whether its shader bypasses the rules, and each candidate is
then decided about as if it were the only one. -/
theorem decide_context (e : Engine) (h : Host) (shader : ShaderId) (snippet : Snippet)
    (x : Candidate) :
    e.decide (e.context h shader snippet x) =
      if e.bypasses h shader then pure .alwaysIncluded
      else decideFrom (e.context h shader snippet x) 0 none e.rules := by
  rw [decide]
  rfl

theorem value_processOne (e : Engine) (h : Host) (shader : ShaderId) (snippet : Snippet)
    (key : String) (slot : Nat) (x : Candidate) (o : Outcome) (t : Tally) :
    (e.processOne h shader snippet (e.bypasses h shader) key slot x o t).value =
      (e.keeps h shader snippet x, o.count (e.keeps h shader snippet x),
        t.record slot (signature x.keywords) (e.keeps h shader snippet x)) := by
  rw [processOne, ← decide_context, keeps, Logged.value_bind]
  -- The loop counts by the kind of the decision, which says the same as whether it keeps.
  cases (e.decide (e.context h shader snippet x)).value with
  | alwaysIncluded => rfl
  | kept includedBy => rfl
  | stripped i => rfl

/-- **The loop of a pass** filters the candidates, and counts the decisions about them in the
outcome and in the tally. -/
theorem value_processAll (e : Engine) (h : Host) (shader : ShaderId) (snippet : Snippet)
    (key : String) (slot : Nat) (xs : List Candidate) (o : Outcome) (t : Tally) :
    (e.processAll h shader snippet (e.bypasses h shader) key slot xs o t).value =
      (xs.filter (e.keeps h shader snippet),
        ⟨o.kept + xs.countP (e.keeps h shader snippet),
          o.stripped + xs.countP fun x => !e.keeps h shader snippet x⟩,
        (e.decisions h shader snippet xs).foldl (fun t d => t.record slot d.1 d.2) t) := by
  induction xs generalizing o t with
  | nil => rfl
  | cons x xs ih =>
    rw [processAll]
    -- The rest is counted on top of the first candidate, so `ih` is for all counts.
    simp only [Logged.value_bind, Logged.value_pure, value_processOne, ih]
    by_cases hkept : e.keeps h shader snippet x = true
    · simp [hkept, decisions, Outcome.count, Nat.add_assoc, Nat.add_comm 1]
    · simp [hkept, decisions, Outcome.count, Nat.add_assoc, Nat.add_comm 1]

theorem value_process_fst (e : Engine) (h : Host) (shader : ShaderId) (snippet : Snippet)
    (xs : List Candidate) (t : Tally) :
    (e.process h shader snippet xs t).value.1 = xs.filter (e.keeps h shader snippet) := by
  rw [process, value_processAll]

/-- **Processing a pass** leaves the candidates that are kept, and counts one record. -/
theorem value_process (e : Engine) (h : Host) (shader : ShaderId) (snippet : Snippet)
    (xs : List Candidate) (rs : List PassRecord) :
    (e.process h shader snippet xs (.ofRecords rs)).value =
      (xs.filter (e.keeps h shader snippet),
        ⟨xs.countP (e.keeps h shader snippet), xs.countP fun x => !e.keeps h shader snippet x⟩,
        .ofRecords (rs ++ [e.recordOf h shader snippet xs])) := by
  simp only [process, value_processAll, Tally.slot_ofRecords, Tally.foldl_record_ofRecords,
    List.nil_append, Nat.zero_add]
  rfl

end Engine

end VariantStrip
