/-
The order of passes does not matter, and neither do the batches that they come in.

What a stripper answers to a call depends on the call only, and its tally counts records
(`Tally.ofRecords`).  So the question is what a tally keeps of the order of its records:

* `Stripper.value_processEach` — the answers to some calls, and what is counted of them,
* `Tally.sameCounts_of_perm` — records in another order make the same tally, but for the order of
  its entries,
* `Tally.ofRecords_cut` — a record that is cut into parts makes the same tally.

The main result is `passes_reordered_and_cut`.
-/
import VariantStrip.Proofs.History

namespace VariantStrip

/-! ### Records in another order -/

/-- The same counts: nothing differs but the order of the entries. -/
structure Tally.SameCounts (t u : Tally) : Prop where
  included : t.included = u.included
  stripped : t.stripped = u.stripped
  stripTime : t.stripTime = u.stripTime
  entry? : ∀ key, t.entry? key = u.entry? key
  entries : t.entries.Perm u.entries

theorem PassTally.ofDecisions_perm {ds es : List (String × Bool)} (h : ds.Perm es) :
    ofDecisions ds = ofDecisions es := by
  have hset (p : String × Bool → Bool) :
      StringSet.ofList ((ds.filter p).map (·.1)) = .ofList ((es.filter p).map (·.1)) :=
    StringSet.ofList_eq_ofList.mpr fun k => ((h.filter p).map (·.1)).mem_iff
  simp only [ofDecisions, hset, h.countP_eq]

namespace PassRecord

variable {rs ss : List PassRecord}

theorem decisionsOf_perm (h : rs.Perm ss) (key : String) :
    (decisionsOf rs key).Perm (decisionsOf ss key) :=
  (h.filter _).flatMap_right _

theorem mem_keys_perm (h : rs.Perm ss) (key : String) : key ∈ keys rs ↔ key ∈ keys ss := by
  simp only [mem_keys, h.mem_iff]

theorem keys_perm (h : rs.Perm ss) : (keys rs).Perm (keys ss) :=
  (List.perm_ext_iff_of_nodup (nodup_keys rs) (nodup_keys ss)).mpr (mem_keys_perm h)

end PassRecord

namespace Tally

open PassRecord

/-- **Records in another order** are counted alike. -/
theorem sameCounts_of_perm {rs ss : List PassRecord} (h : rs.Perm ss) :
    (ofRecords rs).SameCounts (ofRecords ss) := by
  have hall : (rs.flatMap (·.decisions)).Perm (ss.flatMap (·.decisions)) := h.flatMap_right _
  have hentry (key : String) :
      PassTally.ofDecisions (decisionsOf rs key) = .ofDecisions (decisionsOf ss key) :=
    PassTally.ofDecisions_perm (decisionsOf_perm h key)
  refine ⟨hall.countP_eq _, hall.countP_eq _, rfl, fun key => ?_, ?_⟩
  · rw [entry?_ofRecords, entry?_ofRecords, hentry]
    simp only [mem_keys_perm h]
  · simp only [ofRecords, entriesOf, hentry]
    exact (keys_perm h).map _

end Tally

/-! ### Records in parts -/

/-- A record in parts, at least one: they stand under the key of the record, and together they hold
its decisions. -/
structure PassRecord.CutInto (r : PassRecord) (parts : List PassRecord) : Prop where
  ne_nil : parts ≠ []
  key : ∀ q ∈ parts, q.key = r.key
  decisions : parts.flatMap (·.decisions) = r.decisions

namespace PassRecord

theorem CutInto.keys_eq {r : PassRecord} {parts : List PassRecord} (h : r.CutInto parts) :
    keys parts = [r.key] := by
  obtain ⟨q, parts, rfl⟩ := List.exists_cons_of_ne_nil h.ne_nil
  have hrest : (parts.map (·.key)).filter (fun k => !(k == q.key)) = [] := by
    rw [List.filter_eq_nil_iff]
    intro k hk
    obtain ⟨q', hq', rfl⟩ := List.mem_map.mp hk
    rw [h.key q' (List.mem_cons_of_mem q hq'), h.key q List.mem_cons_self]
    simp
  rw [keys, List.map_cons, List.eraseDups_cons, hrest, h.key q List.mem_cons_self]
  rfl

theorem CutInto.decisionsOf_eq {r : PassRecord} {parts : List PassRecord} (h : r.CutInto parts)
    (key : String) : decisionsOf parts key = if key = r.key then r.decisions else [] := by
  by_cases hkey : key = r.key
  · have hfilter : parts.filter (·.key == key) = parts := by
      rw [List.filter_eq_self]
      intro q hq
      rw [h.key q hq, hkey]
      exact beq_self_eq_true _
    rw [if_pos hkey, decisionsOf, hfilter, h.decisions]
  · rw [if_neg hkey, decisionsOf_eq_nil]
    rwa [h.keys_eq, List.mem_singleton]

variable {rs : List PassRecord} {cuts : List (List PassRecord)}

/-- No key is seen earlier or later than before. -/
theorem keys_flatten (h : List.Forall₂ CutInto rs cuts) : keys cuts.flatten = keys rs := by
  induction h with
  | nil => rfl
  | @cons r parts rs cuts hr _ ih =>
    have hfront : (parts.map (·.key)).eraseDups = [r.key] := hr.keys_eq
    rw [keys, keys] at ih
    rw [List.flatten_cons, keys, List.map_append, ← eraseDups_eraseDups_append, hfront,
      ← eraseDups_append_eraseDups, ih, eraseDups_append_eraseDups]
    rfl

theorem decisionsOf_flatten (h : List.Forall₂ CutInto rs cuts) (key : String) :
    decisionsOf cuts.flatten key = decisionsOf rs key := by
  induction h with
  | nil => rfl
  | @cons r parts rs cuts hr _ ih =>
    have hcons : decisionsOf (r :: rs) key = decisionsOf [r] key ++ decisionsOf rs key :=
      decisionsOf_append [r] rs key
    rw [List.flatten_cons, decisionsOf_append, ih, hr.decisionsOf_eq, hcons, decisionsOf_singleton]

theorem flatMap_decisions_flatten (h : List.Forall₂ CutInto rs cuts) :
    cuts.flatten.flatMap (·.decisions) = rs.flatMap (·.decisions) := by
  induction h with
  | nil => rfl
  | cons hr _ ih => rw [List.flatten_cons, List.flatMap_append, ih, hr.decisions, List.flatMap_cons]

end PassRecord

open PassRecord in
/-- **Records in parts** are counted alike, and their entries stand in the same order. -/
theorem Tally.ofRecords_cut (before : List PassRecord) {rs : List PassRecord}
    {cuts : List (List PassRecord)} (h : List.Forall₂ CutInto rs cuts) :
    ofRecords (before ++ cuts.flatten) = ofRecords (before ++ rs) := by
  have hkeys : keys (before ++ cuts.flatten) = keys (before ++ rs) := by
    have hparts : (cuts.flatten.map (·.key)).eraseDups = (rs.map (·.key)).eraseDups :=
      keys_flatten h
    rw [keys, List.map_append, ← eraseDups_append_eraseDups, hparts, eraseDups_append_eraseDups,
      keys, List.map_append]
  simp only [ofRecords, entriesOf, hkeys, decisionsOf_append, decisionsOf_flatten h,
    List.flatMap_append, flatMap_decisions_flatten h]

/-! ### Calls and the answers to them -/

/-- Calls that show the candidates of one call in batches, at least one. -/
structure PassCall.CutInto (c : PassCall) (batches : List PassCall) : Prop where
  ne_nil : batches ≠ []
  host : ∀ b ∈ batches, b.host = c.host
  shader : ∀ b ∈ batches, b.shader = c.shader
  snippet : ∀ b ∈ batches, b.snippet = c.snippet
  candidates : batches.flatMap (·.candidates) = c.candidates

theorem PassCall.CutInto.recordOfCall {c : PassCall} {batches : List PassCall}
    (h : c.CutInto batches) (e : Engine) :
    (e.recordOfCall c).CutInto (batches.map e.recordOfCall) := by
  refine ⟨fun hnil => h.ne_nil (List.map_eq_nil_iff.mp hnil), fun q hq => ?_, ?_⟩
  · obtain ⟨b, hb, rfl⟩ := List.mem_map.mp hq
    simp only [Engine.recordOfCall, Engine.recordOf, h.host b hb, h.shader b hb, h.snippet b hb]
  · have hbatch : ∀ b ∈ batches, (e.recordOfCall b).decisions =
        b.candidates.map fun x => (signature x.keywords, e.keeps c.host c.shader c.snippet x) := by
      intro b hb
      simp only [Engine.recordOfCall, Engine.recordOf, Engine.decisions, h.host b hb,
        h.shader b hb, h.snippet b hb]
    rw [List.flatMap_map, List.flatMap_congr hbatch, ← List.map_flatMap, h.candidates]
    rfl

/-- A call with the answer to it. -/
structure PassAnswer where
  call : PassCall
  left : List Candidate
  outcome : Outcome

/-- One answer says what some answers say together. -/
structure PassAnswer.Joins (a : PassAnswer) (parts : List PassAnswer) : Prop where
  left : parts.flatMap (·.left) = a.left
  kept : (parts.map (·.outcome.kept)).sum = a.outcome.kept
  stripped : (parts.map (·.outcome.stripped)).sum = a.outcome.stripped

namespace Stripper

/-- Shows passes to a stripper one after the other. -/
def processEach (s : Stripper) : List PassCall → Logged (List PassAnswer × Stripper)
  | [] => pure ([], s)
  | c :: cs => do
    let (left, outcome, s) ← s.process c.host c.shader c.snippet c.candidates
    let (rest, s) ← s.processEach cs
    return (⟨c, left, outcome⟩ :: rest, s)

/-- Whether a candidate of a call is left; without an engine all of them are. -/
def leaves (s : Stripper) (c : PassCall) (x : Candidate) : Bool :=
  match s.engine with
  | none => true
  | some e => e.keeps c.host c.shader c.snippet x

/-- The answer to a call. -/
def answerTo (s : Stripper) (c : PassCall) : PassAnswer where
  call := c
  left := c.candidates.filter (s.leaves c)
  outcome := ⟨c.candidates.countP (s.leaves c), c.candidates.countP fun x => !s.leaves c x⟩

/-- What is counted of some calls; without an engine nothing is. -/
def recordsOf (s : Stripper) (cs : List PassCall) : List PassRecord :=
  match s.engine with
  | none => []
  | some e => cs.map e.recordOfCall

variable {s : Stripper} {rs : List PassRecord}

theorem value_process_of_tally (htally : s.tally = .ofRecords rs) (c : PassCall) :
    (s.process c.host c.shader c.snippet c.candidates).value =
      ((s.answerTo c).left, (s.answerTo c).outcome,
        { s with tally := .ofRecords (rs ++ s.recordsOf [c]) }) := by
  rcases hengine : s.engine with - | e
  · have hall : s.leaves c = fun _ => true := by
      funext x
      rw [leaves, hengine]
    rw [value_process_of_none hengine, recordsOf, hengine]
    simp [answerTo, hall, ← htally, List.countP_true, ← hengine]
  · have hkeeps : s.leaves c = e.keeps c.host c.shader c.snippet := by
      funext x
      rw [leaves, hengine]
    rw [value_process_of_some hengine, htally, e.value_process, recordsOf, hengine]
    simp only [answerTo, hkeeps]
    rfl

/-- **The answers to some calls** depend on each call alone, and the calls are counted in order. -/
theorem value_processEach (htally : s.tally = .ofRecords rs) (cs : List PassCall) :
    (s.processEach cs).value =
      (cs.map s.answerTo, { s with tally := .ofRecords (rs ++ s.recordsOf cs) }) := by
  induction cs generalizing s rs with
  | nil =>
    have hnone : s.recordsOf [] = [] := by
      rw [recordsOf]
      cases s.engine <;> rfl
    rw [processEach, hnone, List.append_nil, ← htally]
    rfl
  | cons c cs ih =>
    -- Counting a call changes nothing that later answers depend on.
    let s' : Stripper := { s with tally := .ofRecords (rs ++ s.recordsOf [c]) }
    have hrest := ih (s := s') rfl
    have hrecords : s.recordsOf (c :: cs) = s.recordsOf [c] ++ s.recordsOf cs := by
      simp only [recordsOf]
      cases s.engine <;> rfl
    simp only [processEach, Logged.value_bind, Logged.value_pure, value_process_of_tally htally]
    rw [hrest, List.map_cons, hrecords, ← List.append_assoc]
    rfl

theorem recordsOf_perm (s : Stripper) {cs ds : List PassCall} (h : cs.Perm ds) :
    (s.recordsOf cs).Perm (s.recordsOf ds) := by
  rw [recordsOf, recordsOf]
  cases s.engine with
  | none => exact .refl _
  | some e => exact h.map _

theorem recordsOf_cut (s : Stripper) {cs : List PassCall} {cuts : List (List PassCall)}
    (h : List.Forall₂ PassCall.CutInto cs cuts) :
    ∃ parts, s.recordsOf cuts.flatten = parts.flatten ∧
      List.Forall₂ PassRecord.CutInto (s.recordsOf cs) parts := by
  rcases hengine : s.engine with - | e
  · exact ⟨[], by rw [recordsOf, hengine]; rfl, by rw [recordsOf, hengine]; exact .nil⟩
  · refine ⟨cuts.map fun bs => bs.map e.recordOfCall, ?_, ?_⟩
    · rw [recordsOf, hengine, ← List.map_flatten]
    · rw [recordsOf, hengine, List.forall₂_map_left_iff, List.forall₂_map_right_iff]
      exact h.imp fun c bs hc => hc.recordOfCall e

/-- The answers to batches say together what is answered to the call. -/
theorem joins_answerTo (s : Stripper) {c : PassCall} {batches : List PassCall}
    (h : c.CutInto batches) : (s.answerTo c).Joins (batches.map s.answerTo) := by
  have hanswer : ∀ b ∈ batches, s.answerTo b =
      ⟨b, b.candidates.filter (s.leaves c),
        ⟨b.candidates.countP (s.leaves c), b.candidates.countP fun x => !s.leaves c x⟩⟩ := by
    intro b hb
    have hleaves : s.leaves b = s.leaves c := by
      funext x
      simp only [leaves, h.host b hb, h.shader b hb, h.snippet b hb]
    rw [answerTo, hleaves]
  rw [List.map_congr_left hanswer, answerTo, ← h.candidates]
  refine ⟨?_, ?_, ?_⟩
  · rw [List.flatMap_map, List.filter_flatMap]
  · simp only [List.map_map, List.countP_flatMap, Function.comp_def]
  · simp only [List.map_map, List.countP_flatMap, Function.comp_def]

/-! ### A stripper that has been prepared -/

/-- What a stripper has counted since it was prepared are records. -/
theorem exists_tally_eq_ofRecords [Pattern.Capacity] (s : Stripper) (d : Disk) (h : Host)
    (assetBundles : Bool) (steps : List BuildStep) :
    ∃ rs,
      ((s.prepare d h assetBundles).value.2.advanceAll steps).value.2.tally = .ofRecords rs := by
  have hstart : (s.prepare d h assetBundles).value.2.tally = .ofRecords [] :=
    s.tally_prepare d h assetBundles
  rcases hengine : (s.prepare d h assetBundles).value.2.engine with - | e
  · exact ⟨[], by rw [value_advanceAll_of_none hengine, hstart]⟩
  · exact ⟨_, congrArg (·.2.tally) (value_advanceAll hengine hstart steps)⟩

end Stripper

/-- **Neither the order of passes nor their batches matter.**  A stripper has been prepared, with
success or not, and has been shown some passes since.  Then it is asked about some calls.

* In another order the calls get the same answers, and the tally has the same counts.
* When each call is cut into batches, the answers to the batches say together what is answered to
  the call, and the tally is the same.  The batches may be shown in another order as well. -/
theorem passes_reordered_and_cut [Pattern.Capacity] (s : Stripper) (d : Disk) (h : Host)
    (assetBundles : Bool) (steps : List BuildStep) (calls : List PassCall) :
    let prepared := ((s.prepare d h assetBundles).value.2.advanceAll steps).value.2
    let asked (calls : List PassCall) := (prepared.processEach calls).value
    (∀ shown : List PassCall, shown.Perm calls →
        (asked shown).1.Perm (asked calls).1 ∧
          (asked shown).2.tally.SameCounts (asked calls).2.tally) ∧
      ∀ cuts : List (List PassCall), List.Forall₂ PassCall.CutInto calls cuts →
        (asked cuts.flatten).2.tally = (asked calls).2.tally ∧
          ∃ answers : List (List PassAnswer), (asked cuts.flatten).1 = answers.flatten ∧
            List.Forall₂ (fun batches as => as.map (·.call) = batches) cuts answers ∧
            List.Forall₂ PassAnswer.Joins (asked calls).1 answers ∧
            ∀ shown : List PassCall, shown.Perm cuts.flatten →
              (asked shown).1.Perm answers.flatten ∧
                (asked shown).2.tally.SameCounts (asked calls).2.tally := by
  intro prepared asked
  obtain ⟨rs, hrs⟩ := s.exists_tally_eq_ofRecords d h assetBundles steps
  have hasked (calls : List PassCall) : asked calls = (calls.map prepared.answerTo,
      { prepared with tally := .ofRecords (rs ++ prepared.recordsOf calls) }) :=
    Stripper.value_processEach hrs calls
  have hperm (shown calls : List PassCall) (h : shown.Perm calls) :
      (asked shown).1.Perm (asked calls).1 ∧
        (asked shown).2.tally.SameCounts (asked calls).2.tally := by
    rw [hasked, hasked]
    exact ⟨h.map _, Tally.sameCounts_of_perm ((prepared.recordsOf_perm h).append_left rs)⟩
  refine ⟨fun shown h => hperm shown calls h, fun cuts hcuts => ?_⟩
  have htally : (asked cuts.flatten).2.tally = (asked calls).2.tally := by
    obtain ⟨parts, hflatten, hparts⟩ := prepared.recordsOf_cut hcuts
    rw [hasked, hasked, hflatten]
    exact Tally.ofRecords_cut rs hparts
  have hflatten : (asked cuts.flatten).1 =
      (cuts.map fun bs => bs.map prepared.answerTo).flatten := by
    rw [hasked, ← List.map_flatten]
  refine ⟨htally, _, hflatten, ?_, ?_, fun shown h => ?_⟩
  · rw [List.forall₂_map_right_iff]
    refine List.forall₂_same.mpr fun bs _ => ?_
    rw [List.map_map]
    exact List.map_id bs
  · rw [hasked, List.forall₂_map_left_iff, List.forall₂_map_right_iff]
    exact hcuts.imp fun c bs hc => prepared.joins_answerTo hc
  · rw [← hflatten, ← htally]
    exact hperm shown cuts.flatten h

/-- A pass with one candidate for each of some platforms. -/
def sandPass (passName : String) (platforms : List Platform) : PassCall :=
  ⟨sandHost, ⟨0⟩, ⟨.normal, passName⟩, platforms.map fun p => ⟨["A"], p, .tier1⟩⟩

/-- Two passes. -/
def sandCalls : List PassCall := [sandPass "P" [.vulkan, .d3d, .vulkan], sandPass "Q" [.d3d]]

/-- The first one in batches, one of which is empty. -/
def sandBatches : List (List PassCall) :=
  [[sandPass "P" [.vulkan], sandPass "P" [], sandPass "P" [.d3d, .vulkan]], [sandPass "Q" [.d3d]]]

theorem passes_reordered_and_cut_sand :
    let prepared := (sandStripper.prepare {} sandHost false).value.2
    let asked (calls : List PassCall) := (prepared.processEach calls).value
    List.Forall₂ PassCall.CutInto sandCalls sandBatches ∧
      (asked sandBatches.flatten).2.tally = (asked sandCalls).2.tally ∧
      (asked sandBatches.flatten.reverse).2.tally.SameCounts (asked sandCalls).2.tally ∧
      ((asked sandCalls).1.map (·.outcome) = [⟨1, 2⟩, ⟨1, 0⟩] ∧
        (asked sandCalls).2.tally.entries.map (·.1) = ["Sand::Normal::P", "Sand::Normal::Q"] ∧
        (asked sandBatches.flatten.reverse).2.tally.entries.map (·.1) =
          ["Sand::Normal::Q", "Sand::Normal::P"]) := by
  have hcut : List.Forall₂ PassCall.CutInto sandCalls sandBatches := by
    refine .cons ⟨nofun, ?_, ?_, ?_, rfl⟩ (.cons ⟨nofun, ?_, ?_, ?_, rfl⟩ .nil) <;>
      simp [sandPass]
  obtain ⟨-, hcuts⟩ := passes_reordered_and_cut sandStripper {} sandHost false [] sandCalls
  obtain ⟨htally, answers, -, -, -, hshown⟩ := hcuts sandBatches hcut
  exact ⟨hcut, htally, (hshown _ (List.reverse_perm _)).2, by decide +kernel⟩

end VariantStrip
