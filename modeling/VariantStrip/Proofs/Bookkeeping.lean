/-
What a pass changes in the books.

A pass that is processed is counted under its key, whatever the tally holds already.  Everything
goes through the position of the key, which is its place among the keys (`Tally.passKeys`), or the
next place if it is new:

* `Tally.slot_eq` — looking up a position adds an entry at the end or nothing,
* `Tally.foldl_record` — counting at a position changes the entry there and the totals,
* `Tally.countsUnder_foldl_record` — so counting under a key leaves the entries of all other keys
  alone.

The main result is `process_filters_and_counts`.
-/
import VariantStrip.Proofs.Decision

namespace VariantStrip

/-! ### One entry -/

namespace PassTally

/-- An entry counts some more variants, which are given by their signatures. -/
structure CountsMore (kept stripped : List String) (p q : PassTally) : Prop where
  includeCount : q.includeCount = p.includeCount + kept.length
  stripCount : q.stripCount = p.stripCount + stripped.length
  mem_included : ∀ shown, shown ∈ q.included ↔ shown ∈ p.included ∨ shown ∈ kept
  mem_stripped : ∀ shown, shown ∈ q.stripped ↔ shown ∈ p.stripped ∨ shown ∈ stripped

theorem merge_assoc (p q r : PassTally) : (p.merge q).merge r = p.merge (q.merge r) := by
  have hunion (s t u : StringSet) : (s.union t).union u = s.union (t.union u) := by
    refine StringSet.ext_of_mem fun shown => ?_
    simp only [StringSet.mem_union, or_assoc]
  simp only [merge, hunion, Nat.add_assoc]

/-- Counting variants one after the other is adding the tally of all of them. -/
theorem foldl_record (ds : List (String × Bool)) (p : PassTally) :
    ds.foldl (fun p d => p.record d.1 d.2) p = p.merge (.ofDecisions ds) := by
  induction ds generalizing p with
  | nil => simp [merge, ofDecisions, StringSet.union_nil]
  | cons d ds ih =>
    rw [List.foldl_cons, ih, record_eq_merge, merge_assoc, merge_ofDecisions]
    rfl

theorem countsMore_merge (p : PassTally) (ds : List (String × Bool)) :
    CountsMore ((ds.filter fun d => d.2).map (·.1)) ((ds.filter fun d => !d.2).map (·.1)) p
      (p.merge (.ofDecisions ds)) where
  includeCount := by simp [merge, ofDecisions, List.countP_eq_length_filter]
  stripCount := by simp [merge, ofDecisions, List.countP_eq_length_filter]
  mem_included _ := by rw [merge, StringSet.mem_union, ofDecisions, StringSet.mem_ofList]
  mem_stripped _ := by rw [merge, StringSet.mem_union, ofDecisions, StringSet.mem_ofList]

end PassTally

/-! ### Keys and positions -/

namespace Tally

/-- The keys of the entries, in order. -/
def passKeys (t : Tally) : List String := t.entries.map (·.1)

/-- The entries, and an empty one at the end if the key is new. -/
def opened (t : Tally) (key : String) : List (String × PassTally) :=
  if key ∈ t.passKeys then t.entries else t.entries ++ [(key, ({} : PassTally))]

theorem slot_eq (t : Tally) (key : String) :
    t.slot key = (t.passKeys.idxOf key, { t with entries := t.opened key }) := by
  rw [slot, findIdx?_key, opened, passKeys]
  by_cases hkey : key ∈ t.entries.map (·.1)
  · rw [if_pos hkey, if_pos hkey]
  · have hlast : (t.entries.map (·.1)).idxOf key = t.entries.length := by
      rw [List.idxOf_eq_length hkey, List.length_map]
    rw [if_neg hkey, if_neg hkey, hlast]

theorem lookup_eq_none_of_not_mem {t : Tally} {key : String} (hkey : key ∉ t.passKeys) :
    t.entries.lookup key = none := by
  rw [List.lookup_eq_none_iff]
  intro entry hentry
  rw [bne_iff_ne]
  rintro rfl
  exact hkey (List.mem_map_of_mem hentry)

theorem map_fst_opened (t : Tally) (key : String) :
    (t.opened key).map (·.1) = if key ∈ t.passKeys then t.passKeys else t.passKeys ++ [key] := by
  rw [opened]
  by_cases hkey : key ∈ t.passKeys
  · rw [if_pos hkey, if_pos hkey, passKeys]
  · rw [if_neg hkey, if_neg hkey, List.map_append, passKeys]
    rfl

/-- Keys that have been seen keep their positions, and a new key has the next one. -/
theorem idxOf_opened {t : Tally} {key k : String} (hk : k = key ∨ k ∈ t.passKeys) :
    ((t.opened key).map (·.1)).idxOf k = t.passKeys.idxOf k := by
  rw [map_fst_opened]
  by_cases hkey : key ∈ t.passKeys
  · rw [if_pos hkey]
  · rw [if_neg hkey, List.idxOf_append]
    by_cases hseen : k ∈ t.passKeys
    · rw [if_pos hseen]
    · have hnew : k = key := hk.resolve_right hseen
      rw [if_neg hseen, hnew, List.idxOf_cons_self, List.idxOf_eq_length hkey, Nat.zero_add]

theorem lookup_opened (t : Tally) (key k : String) :
    (t.opened key).lookup k =
      if k = key then some ((t.entry? key).getD {}) else t.entry? k := by
  rw [opened, entry?, entry?]
  by_cases hkey : key ∈ t.passKeys
  · rw [if_pos hkey]
    by_cases hk : k = key
    · -- There is an entry, so there is no need for an empty one.
      have hsome : (t.entries.lookup key).isSome = true := by
        rw [Option.isSome_iff_ne_none, Ne, List.lookup_eq_none_iff]
        intro hnone
        obtain ⟨entry, hentry, rfl⟩ := List.mem_map.mp hkey
        exact absurd (hnone entry hentry) (by simp)
      obtain ⟨p, hp⟩ := Option.isSome_iff_exists.mp hsome
      rw [if_pos hk, hk, hp, Option.getD_some]
    · rw [if_neg hk]
  · rw [if_neg hkey, List.lookup_append]
    by_cases hk : k = key
    · rw [if_pos hk, hk, lookup_eq_none_of_not_mem hkey, List.lookup_cons_self]
      rfl
    · rw [if_neg hk, List.lookup_cons, beq_eq_false_iff_ne.mpr hk, List.lookup_nil, Option.or_none]

theorem getElem?_opened {t : Tally} {key : String} {i : Nat} (hi : i ≠ t.passKeys.idxOf key) :
    (t.opened key)[i]? = t.entries[i]? := by
  rw [opened]
  by_cases hkey : key ∈ t.passKeys
  · rw [if_pos hkey]
  · have hlast : t.passKeys.idxOf key = t.entries.length := by
      rw [List.idxOf_eq_length hkey, passKeys, List.length_map]
    rw [if_neg hkey]
    rcases Nat.lt_or_ge i t.entries.length with hlt | hge
    · exact List.getElem?_append_left hlt
    · rw [List.getElem?_eq_none hge, List.getElem?_eq_none]
      rw [List.length_append, List.length_singleton]
      omega

/-! ### Counting at a position -/

/-- An entry whose key stays while its counts change. -/
def changed (f : PassTally → PassTally) (entry : String × PassTally) : String × PassTally :=
  (entry.1, f entry.2)

theorem map_fst_modify (f : PassTally → PassTally) (i : Nat) (entries : List (String × PassTally)) :
    (entries.modify i (changed f)).map (·.1) = entries.map (·.1) := by
  induction entries generalizing i with
  | nil => rw [List.modify_nil]
  | cons entry entries ih =>
    cases i with
    | zero => rfl
    | succ i => rw [List.modify_succ_cons, List.map_cons, ih, List.map_cons]

theorem lookup_modify (f : PassTally → PassTally) (key k : String)
    (entries : List (String × PassTally)) :
    (entries.modify ((entries.map (·.1)).idxOf key) (changed f)).lookup k =
      if k = key then (entries.lookup key).map f else entries.lookup k := by
  induction entries with
  | nil => simp
  | cons entry entries ih =>
    rw [List.map_cons, List.idxOf_cons]
    by_cases hentry : entry.1 = key
    · subst hentry
      rw [beq_self_eq_true, cond_true, List.modify_zero_cons, List.lookup_cons, List.lookup_cons,
        List.lookup_cons, changed, beq_self_eq_true]
      by_cases hk : k = entry.1
      · rw [if_pos hk, beq_iff_eq.mpr hk]
        rfl
      · rw [if_neg hk, beq_eq_false_iff_ne.mpr hk]
    · rw [beq_eq_false_iff_ne.mpr hentry, cond_false, List.modify_succ_cons,
        List.lookup_cons, List.lookup_cons, List.lookup_cons, ih,
        beq_eq_false_iff_ne.mpr (Ne.symm hentry)]
      by_cases hk : k = key
      · have hother : (k == entry.1) = false := beq_eq_false_iff_ne.mpr (hk ▸ Ne.symm hentry)
        rw [if_pos hk, if_pos hk, hother]
      · rw [if_neg hk, if_neg hk]

/-- What is found under a key stands at the position of the key. -/
theorem getElem?_of_lookup {entries : List (String × PassTally)} {key : String} {p : PassTally}
    (hp : entries.lookup key = some p) :
    entries[(entries.map (·.1)).idxOf key]? = some (key, p) := by
  obtain ⟨before, after, rfl, hbefore⟩ := List.lookup_eq_some_iff.mp hp
  have hnew : key ∉ before.map (·.1) := by
    intro hkey
    obtain ⟨entry, hentry, rfl⟩ := List.mem_map.mp hkey
    exact absurd (hbefore entry hentry) (by simp)
  have hposition : ((before ++ (key, p) :: after).map (·.1)).idxOf key = before.length := by
    rw [List.map_append, List.map_cons, List.idxOf_append, if_neg hnew, List.idxOf_cons_self,
      List.length_map, Nat.zero_add]
  rw [hposition, List.getElem?_append_right (Nat.le_refl _), Nat.sub_self, List.getElem?_cons_zero]

/-- Counting variants in the entry at a position changes that entry and the totals. -/
theorem foldl_record (slot : Nat) (ds : List (String × Bool)) (t : Tally) :
    ds.foldl (fun t d => t.record slot d.1 d.2) t =
      { t with
        entries := t.entries.modify slot
          (changed fun p => ds.foldl (fun p d => p.record d.1 d.2) p)
        included := t.included + ds.countP fun d => d.2
        stripped := t.stripped + ds.countP fun d => !d.2 } := by
  induction ds generalizing t with
  | nil =>
    have hsame : t.entries.modify slot (changed fun p => p) = t.entries := List.modify_id _ _
    simp only [List.foldl_nil, hsame, List.countP_nil, Nat.add_zero]
  | cons d ds ih =>
    have hentries : (t.record slot d.1 d.2).entries.modify slot
          (changed fun p => ds.foldl (fun p d => p.record d.1 d.2) p) =
        t.entries.modify slot
          (changed fun p => (d :: ds).foldl (fun p d => p.record d.1 d.2) p) :=
      List.modify_modify_eq _ _ _ _
    rw [List.foldl_cons, ih, hentries]
    rcases d with ⟨shown, - | -⟩ <;> simp [record, Nat.add_assoc, Nat.add_comm 1]

/-- **The books of a pass.**  A tally has grown to another one by some variants that were counted
under a key, those that were left and those that were removed, given by their signatures. -/
structure CountsUnder (key : String) (left removed : List String) (t u : Tally) : Prop where
  included : u.included = t.included + left.length
  stripped : u.stripped = t.stripped + removed.length
  /-- The keys stay where they are, and a new one comes last. -/
  keys : u.passKeys = if key ∈ t.passKeys then t.passKeys else t.passKeys ++ [key]
  slots : ∀ k ∈ t.passKeys, (u.slot k).1 = (t.slot k).1
  /-- The entry that is found under the key stands at its position. -/
  entry : ∃ p, u.entry? key = some p ∧ u.entries[(t.slot key).1]? = some (key, p) ∧
    PassTally.CountsMore left removed ((t.entry? key).getD {}) p
  /-- All other entries stay. -/
  others : ∀ i, i ≠ (t.slot key).1 → u.entries[i]? = t.entries[i]?
  lookups : ∀ k, k ≠ key → u.entry? k = t.entry? k

/-- Counting variants at the position of a key counts them under the key. -/
theorem countsUnder_foldl_record (t : Tally) (key : String) (ds : List (String × Bool)) :
    CountsUnder key ((ds.filter fun d => d.2).map (·.1)) ((ds.filter fun d => !d.2).map (·.1)) t
      (ds.foldl (fun u d => u.record (t.slot key).1 d.1 d.2) (t.slot key).2) := by
  have hslot : (t.slot key).1 = t.passKeys.idxOf key := by rw [slot_eq]
  -- The position that counting goes to is that of the key among the keys afterwards.
  have hposition : ((t.opened key).map (·.1)).idxOf key = (t.slot key).1 := by
    rw [hslot, idxOf_opened (.inl rfl)]
  have hkeys : ((t.opened key).modify (t.slot key).1
      (changed fun p => p.merge (.ofDecisions ds))).map (·.1) = (t.opened key).map (·.1) :=
    map_fst_modify _ _ _
  have hlookup (k : String) : ((t.opened key).modify (t.slot key).1
      (changed fun p => p.merge (.ofDecisions ds))).lookup k =
        if k = key then some (((t.entry? key).getD {}).merge (.ofDecisions ds))
        else t.entry? k := by
    rw [← hposition, lookup_modify, lookup_opened, lookup_opened, if_pos rfl]
    by_cases hk : k = key
    · rw [if_pos hk, if_pos hk]
      rfl
    · rw [if_neg hk, if_neg hk, if_neg hk]
  have hopened : (t.slot key).2 = { t with entries := t.opened key } := by rw [slot_eq]
  rw [foldl_record, hopened]
  simp only [PassTally.foldl_record]
  refine ⟨?_, ?_, ?_, fun k hk => ?_, ⟨_, ?_, ?_, PassTally.countsMore_merge _ ds⟩,
    fun i hi => ?_, fun k hk => ?_⟩
  · simp only [List.countP_eq_length_filter, List.length_map]
  · simp only [List.countP_eq_length_filter, List.length_map]
  · rw [← map_fst_opened, ← hkeys]
    rfl
  · rw [slot_eq, slot_eq t k, passKeys, hkeys]
    exact idxOf_opened (.inr hk)
  · exact (hlookup key).trans (if_pos rfl)
  · have hfound := getElem?_of_lookup ((hlookup key).trans (if_pos rfl))
    rwa [hkeys, hposition] at hfound
  · exact (List.getElem?_modify_ne _ _ (Ne.symm hi)).trans (getElem?_opened (hslot ▸ hi))
  · exact (hlookup k).trans (if_neg hk)

end Tally

/-! ### A pass -/

/-- Processing a pass looks up its position once, and counts all candidates there. -/
theorem Engine.value_process_slot (e : Engine) (h : Host) (shader : ShaderId) (snippet : Snippet)
    (xs : List Candidate) (t : Tally) :
    (e.process h shader snippet xs t).value =
      (xs.filter (e.keeps h shader snippet),
        ⟨xs.countP (e.keeps h shader snippet), xs.countP fun x => !e.keeps h shader snippet x⟩,
        (e.decisions h shader snippet xs).foldl
          (fun u d => u.record (t.slot (keyOf h shader snippet)).1 d.1 d.2)
          (t.slot (keyOf h shader snippet)).2) := by
  simp only [process, value_processAll, keyOf, Nat.zero_add]

/-- **A pass is filtered and counted.**  What is left of the candidates are those that the engine
decides to keep, in order, and the outcome says how many there are of them and of the others.  In
the tally they are counted under the key of the pass, and nothing else changes. -/
theorem process_filters_and_counts (e : Engine) (h : Host) (shader : ShaderId) (snippet : Snippet)
    (xs : List Candidate) (t : Tally) :
    let keeps (x : Candidate) : Bool := (e.decide (e.context h shader snippet x)).value.isKept
    let shown (xs : List Candidate) : List String := xs.map fun x => signature x.keywords
    let processed := (e.process h shader snippet xs t).value
    processed.1 = xs.filter keeps ∧
      processed.2.1.kept = processed.1.length ∧
      processed.2.1.kept + processed.2.1.stripped = xs.length ∧
      t.CountsUnder (passKey (h.nameOf shader) snippet.passType snippet.passName)
        (shown (xs.filter keeps)) (shown (xs.filter fun x => !keeps x)) processed.2.2 := by
  intro keeps shown processed
  have hleft : shown (xs.filter keeps) =
      ((e.decisions h shader snippet xs).filter fun d => d.2).map (·.1) := by
    rw [Engine.decisions, List.filter_map, List.map_map]
    rfl
  have hremoved : shown (xs.filter fun x => !keeps x) =
      ((e.decisions h shader snippet xs).filter fun d => !d.2).map (·.1) := by
    rw [Engine.decisions, List.filter_map, List.map_map]
    rfl
  have hprocessed := e.value_process_slot h shader snippet xs t
  rw [hleft, hremoved]
  simp only [processed, hprocessed]
  exact ⟨rfl, List.countP_eq_length_filter, countP_add_countP_not _ xs,
    t.countsUnder_foldl_record _ _⟩

/-- An engine that strips what is built for one platform. -/
def atollEngine : Engine where
  rules := [{
    kind := .stripPlatforms
    votesStrip := fun c => .ok (c.candidate.platform == .vulkan) }]

/-- Candidates of which two have the same signature and go different ways. -/
def atollCandidates : List Candidate :=
  [⟨["A"], .vulkan, .tier1⟩, ⟨["B", "A"], .d3d, .tier1⟩, ⟨["A"], .d3d, .tier2⟩]

/-- The books before the pass, in which it has been seen between two others. -/
def atollTally : Tally where
  entries := [
    ("Reef::Meta::P", {}),
    ("::Normal::P", { includeCount := 1, included := .ofList ["A"] }),
    ("Reef::Normal::P", { stripCount := 2, stripped := .ofList ["C"] })]
  included := 1
  stripped := 2

/-- The shader is not known, so its name in the key is empty. -/
theorem process_filters_and_counts_atoll :
    let processed := (atollEngine.process {} ⟨7⟩ ⟨.normal, "P"⟩ atollCandidates atollTally).value
    processed.1 = atollCandidates.drop 1 ∧ processed.2.1 = ⟨2, 1⟩ ∧
      atollTally.CountsUnder "::Normal::P" ["B A", "A"] ["A"] processed.2.2 := by
  obtain ⟨hleft, -, -, hcounts⟩ :=
    process_filters_and_counts atollEngine {} ⟨7⟩ ⟨.normal, "P"⟩ atollCandidates atollTally
  exact ⟨hleft.trans (by decide +kernel), by decide +kernel, hcounts⟩

end VariantStrip
