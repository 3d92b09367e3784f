/-
Tallies as records of decisions.

A tally says nothing but what a list of records says, in which the decisions about the candidates
of each pass stand in the order in which they were made (`Tally.ofRecords`):

* `PassRecord.keys` — the keys in the order in which they were first seen,
* `PassRecord.decisionsOf` — everything that was decided under one key,
* `PassTally.ofDecisions` — the numbers and the signatures of some decisions.

Counting is adding to the list: `Tally.slot_ofRecords` adds a pass without decisions,
`Tally.record_ofRecords` adds one decision to the last pass, and `Tally.merge_ofRecords` appends
the list of another tally.  Laws of tallies are laws of lists through these three.
-/
import VariantStrip.Proofs.FirstSeen
import VariantStrip.Proofs.StringSet
import VariantStrip.Tally

namespace VariantStrip

/-! ### The decisions of one pass -/

/-- What is not counted with a condition is counted without it. -/
theorem countP_add_countP_not {α : Type} (p : α → Bool) (xs : List α) :
    xs.countP p + xs.countP (fun x => !p x) = xs.length := by
  have hlength := List.length_eq_countP_add_countP p (l := xs)
  simpa using hlength.symm

namespace PassTally

/-- The tally of some decisions: of each candidate its signature, and whether it was kept. -/
def ofDecisions (ds : List (String × Bool)) : PassTally where
  includeCount := ds.countP fun d => d.2
  stripCount := ds.countP fun d => !d.2
  included := .ofList ((ds.filter fun d => d.2).map (·.1))
  stripped := .ofList ((ds.filter fun d => !d.2).map (·.1))

theorem mem_included_ofDecisions {ds : List (String × Bool)} {signature : String} :
    signature ∈ (ofDecisions ds).included ↔ (signature, true) ∈ ds := by
  simp [ofDecisions]

theorem mem_stripped_ofDecisions {ds : List (String × Bool)} {signature : String} :
    signature ∈ (ofDecisions ds).stripped ↔ (signature, false) ∈ ds := by
  simp [ofDecisions]

theorem merge_ofDecisions (ds es : List (String × Bool)) :
    (ofDecisions ds).merge (ofDecisions es) = ofDecisions (ds ++ es) := by
  simp only [merge, ofDecisions, StringSet.union_ofList, List.countP_append, List.filter_append,
    List.map_append]

/-- Counting one variant is adding the tally of one decision. -/
theorem record_eq_merge (p : PassTally) (signature : String) (kept : Bool) :
    p.record signature kept = p.merge (ofDecisions [(signature, kept)]) := by
  cases kept with
  | false => simp [record, merge, ofDecisions, StringSet.union_nil, StringSet.union_singleton]
  | true => simp [record, merge, ofDecisions, StringSet.union_nil, StringSet.union_singleton]

end PassTally

/-! ### Records -/

/-- What was decided about the candidates of a pass, under the key of the pass. -/
structure PassRecord where
  key : String
  /-- Of each candidate its signature, and whether it was kept. -/
  decisions : List (String × Bool)

namespace PassRecord

/-- The keys of some records, in the order in which they were first seen. -/
def keys (rs : List PassRecord) : List String := (rs.map (·.key)).eraseDups

/-- What was decided under a key, in order. -/
def decisionsOf (rs : List PassRecord) (key : String) : List (String × Bool) :=
  (rs.filter (·.key == key)).flatMap (·.decisions)

/-- Where a key stands among those of some records, or would stand as the next one. -/
def position (rs : List PassRecord) (key : String) : Nat :=
  (keys (rs ++ [⟨key, []⟩])).idxOf key

/-- One record for each key. -/
def grouped (rs : List PassRecord) : List PassRecord :=
  (keys rs).map fun key => ⟨key, decisionsOf rs key⟩

theorem mem_keys {rs : List PassRecord} {key : String} :
    key ∈ keys rs ↔ ∃ r ∈ rs, r.key = key := by
  simp [keys]

theorem nodup_keys (rs : List PassRecord) : (keys rs).Nodup := nodup_eraseDups _

theorem keys_concat (rs : List PassRecord) (r : PassRecord) :
    keys (rs ++ [r]) = if r.key ∈ keys rs then keys rs else keys rs ++ [r.key] := by
  simp only [keys, List.map_append, List.map_cons, List.map_nil, eraseDups_concat,
    List.mem_eraseDups]

theorem decisionsOf_append (rs ss : List PassRecord) (key : String) :
    decisionsOf (rs ++ ss) key = decisionsOf rs key ++ decisionsOf ss key := by
  simp [decisionsOf]

theorem decisionsOf_singleton (r : PassRecord) (key : String) :
    decisionsOf [r] key = if key = r.key then r.decisions else [] := by
  by_cases h : key = r.key
  · simp [decisionsOf, h]
  · simp [decisionsOf, h, Ne.symm h]

theorem decisionsOf_eq_nil {rs : List PassRecord} {key : String} (h : key ∉ keys rs) :
    decisionsOf rs key = [] := by
  rw [decisionsOf, List.filter_eq_nil_iff.mpr]
  · rfl
  · intro r hr hk
    exact h (mem_keys.mpr ⟨r, hr, by simpa using hk⟩)

theorem decisionsOf_grouped (rs : List PassRecord) (key : String) :
    decisionsOf (grouped rs) key = decisionsOf rs key := by
  have hfilter : (grouped rs).filter (·.key == key) =
      ((keys rs).filter (· == key)).map fun key => ⟨key, decisionsOf rs key⟩ := by
    rw [grouped, List.filter_map]
    rfl
  rw [decisionsOf, hfilter, List.filter_beq]
  by_cases h : key ∈ keys rs
  · rw [List.count_eq_one_of_mem (nodup_keys rs) h]
    simp
  · rw [List.count_eq_zero_of_not_mem h, decisionsOf_eq_nil h]
    rfl

theorem keys_append_grouped (rs ss : List PassRecord) :
    keys (rs ++ grouped ss) = keys (rs ++ ss) := by
  have hmap : (grouped ss).map (·.key) = keys ss := by
    rw [grouped, List.map_map]
    exact List.map_id _
  rw [keys, List.map_append, hmap, keys, eraseDups_append_eraseDups, keys, List.map_append]

end PassRecord

/-! ### Tallies -/

namespace Tally

open PassRecord

/-- The entries of a tally that counts some records. -/
def entriesOf (rs : List PassRecord) : List (String × PassTally) :=
  (keys rs).map fun key => (key, .ofDecisions (decisionsOf rs key))

/-- **The tally of some records.** -/
def ofRecords (rs : List PassRecord) : Tally where
  entries := entriesOf rs
  included := (rs.flatMap (·.decisions)).countP fun d => d.2
  stripped := (rs.flatMap (·.decisions)).countP fun d => !d.2

theorem ofRecords_nil : ofRecords [] = {} := rfl

theorem entriesOf_append_grouped (rs ss : List PassRecord) :
    entriesOf (rs ++ grouped ss) = entriesOf (rs ++ ss) := by
  simp only [entriesOf, keys_append_grouped, decisionsOf_append, decisionsOf_grouped]

theorem map_fst_entriesOf (rs : List PassRecord) : (entriesOf rs).map (·.1) = keys rs := by
  rw [entriesOf, List.map_map]
  exact List.map_id _

theorem isEmpty_entriesOf (rs : List PassRecord) : (entriesOf rs).isEmpty = rs.isEmpty := by
  cases rs with
  | nil => rfl
  | cons r rs =>
    have hmem : r.key ∈ keys (r :: rs) := mem_keys.mpr ⟨r, List.mem_cons_self, rfl⟩
    rw [List.isEmpty_cons, entriesOf, List.isEmpty_map, Bool.eq_false_iff, Ne, List.isEmpty_iff]
    exact List.ne_nil_of_mem hmem

/-- The entry with a key, if the key has been seen. -/
theorem entry?_ofRecords (rs : List PassRecord) (key : String) :
    Tally.entry? (ofRecords rs) key =
      if key ∈ keys rs then some (.ofDecisions (decisionsOf rs key)) else none := by
  rw [ofRecords, entry?, entriesOf]
  generalize keys rs = ks
  induction ks with
  | nil => rfl
  | cons k ks ih =>
    rw [List.map_cons, List.lookup_cons, ih]
    by_cases hk : key = k
    · subst hk
      simp
    · rw [beq_eq_false_iff_ne.mpr hk]
      simp [hk]

/-- Changing the entry at the position of a key changes the entry of the key only. -/
theorem modify_map_key (g : String → PassTally) (f : PassTally → PassTally) {ks : List String}
    (hks : ks.Nodup) (key : String) :
    (ks.map fun k => (k, g k)).modify (ks.idxOf key) (fun (k, p) => (k, f p)) =
      ks.map fun k => (k, if k = key then f (g k) else g k) := by
  induction ks with
  | nil => rfl
  | cons k ks ih =>
    rw [List.nodup_cons] at hks
    rw [List.idxOf_cons]
    by_cases hk : k = key
    · subst hk
      have hrest : (ks.map fun x => (x, if x = k then f (g x) else g x)) =
          ks.map fun x => (x, g x) := by
        refine List.map_congr_left fun x hx => ?_
        rw [if_neg]
        rintro rfl
        exact hks.1 hx
      simp [hrest]
    · have hk' : (k == key) = false := by simpa using hk
      simp [hk', hk, ih hks.2]

/-- The position of a key in a tally, and the tally with an entry for it. -/
theorem slot_entriesOf {t : Tally} {rs : List PassRecord} (ht : t.entries = entriesOf rs)
    (key : String) :
    t.slot key = (position rs key, { t with entries := entriesOf (rs ++ [⟨key, []⟩]) }) := by
  have hdecisions (k : String) : decisionsOf (rs ++ [⟨key, []⟩]) k = decisionsOf rs k := by
    simp [decisionsOf_append, decisionsOf_singleton]
  -- A new pass has no decisions yet, so only the list of keys grows.
  rw [slot, position, ht, findIdx?_key, map_fst_entriesOf, entriesOf, entriesOf, keys_concat]
  by_cases hk : key ∈ keys rs
  · simp only [if_pos hk, hdecisions]
    rw [← entriesOf, ← ht]
  · simp only [if_neg hk, hdecisions]
    simp [List.idxOf_append, hk, decisionsOf_eq_nil hk, PassTally.ofDecisions]
    rfl

/-- Adding decisions to the entry of a key. -/
theorem modify_entriesOf (rs : List PassRecord) (key : String) (ds es : List (String × Bool)) :
    (entriesOf (rs ++ [⟨key, ds⟩])).modify (position rs key)
        (fun (k, p) => (k, p.merge (.ofDecisions es))) =
      entriesOf (rs ++ [⟨key, ds ++ es⟩]) := by
  -- The keys do not depend on decisions, so `position` is right whatever has been decided.
  have hkeys (ds : List (String × Bool)) :
      keys (rs ++ [⟨key, ds⟩]) = keys (rs ++ [⟨key, []⟩]) := by
    simp only [keys_concat]
  rw [entriesOf, entriesOf, position, hkeys ds, hkeys (ds ++ es)]
  refine (modify_map_key _ (fun p => p.merge (.ofDecisions es)) (nodup_keys _) key).trans ?_
  refine List.map_congr_left fun k _ => ?_
  by_cases hk : k = key
  · simp [hk, decisionsOf_append, decisionsOf_singleton, PassTally.merge_ofDecisions]
  · simp [hk, decisionsOf_append, decisionsOf_singleton]

/-- A pass that is seen gets a record without decisions. -/
theorem slot_ofRecords (rs : List PassRecord) (key : String) :
    (ofRecords rs).slot key = (position rs key, ofRecords (rs ++ [⟨key, []⟩])) := by
  rw [slot_entriesOf rfl]
  simp [ofRecords]

/-- A decision is added to the record of its pass. -/
theorem record_ofRecords (rs : List PassRecord) (key : String) (ds : List (String × Bool))
    (signature : String) (kept : Bool) :
    (ofRecords (rs ++ [⟨key, ds⟩])).record (position rs key) signature kept =
      ofRecords (rs ++ [⟨key, ds ++ [(signature, kept)]⟩]) := by
  have hentries := modify_entriesOf rs key ds [(signature, kept)]
  simp only [record, ofRecords, PassTally.record_eq_merge, hentries]
  cases kept <;> simp [← Nat.add_assoc]

/-- Decisions are added to the record of their pass one after the other. -/
theorem foldl_record_ofRecords (rs : List PassRecord) (key : String)
    (ds es : List (String × Bool)) :
    es.foldl (fun t d => t.record (position rs key) d.1 d.2) (ofRecords (rs ++ [⟨key, ds⟩])) =
      ofRecords (rs ++ [⟨key, ds ++ es⟩]) := by
  induction es generalizing ds with
  | nil => simp
  | cons e es ih =>
    rw [List.foldl_cons, record_ofRecords, ih]
    simp

theorem entries_mergeEntry {t : Tally} {rs : List PassRecord} (ht : t.entries = entriesOf rs)
    (r : PassRecord) :
    (t.mergeEntry (r.key, .ofDecisions r.decisions)).entries = entriesOf (rs ++ [r]) := by
  simp only [mergeEntry, slot_entriesOf ht]
  exact modify_entriesOf rs r.key [] r.decisions

theorem entries_foldl_mergeEntry {t : Tally} {rs : List PassRecord}
    (ht : t.entries = entriesOf rs) (ss : List PassRecord) :
    ((ss.map fun r => (r.key, PassTally.ofDecisions r.decisions)).foldl mergeEntry t).entries =
      entriesOf (rs ++ ss) := by
  induction ss generalizing t rs with
  | nil => simpa using ht
  | cons r ss ih =>
    rw [List.map_cons, List.foldl_cons, ih (entries_mergeEntry ht r), List.append_assoc]
    rfl

/-- **Merging tallies is appending records.** -/
theorem merge_ofRecords (rs ss : List PassRecord) :
    (ofRecords rs).merge (ofRecords ss) = ofRecords (rs ++ ss) := by
  -- The entries of the other tally are records themselves, one for each key.
  have hgrouped : (ofRecords ss).entries =
      (grouped ss).map fun r => (r.key, PassTally.ofDecisions r.decisions) := by
    simp [ofRecords, entriesOf, grouped]
  have hself : (ofRecords rs).entries = entriesOf rs := rfl
  have hentries : ((ofRecords ss).entries.foldl mergeEntry (ofRecords rs)).entries =
      entriesOf (rs ++ ss) := by
    rw [hgrouped, entries_foldl_mergeEntry hself, entriesOf_append_grouped]
  rw [merge, hentries]
  simp [ofRecords]

end Tally

end VariantStrip
