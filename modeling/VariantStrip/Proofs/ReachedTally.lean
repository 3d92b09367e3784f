/-
The tallies that counting leads to.

Counting looks up the entry of a key, records a variant in an entry, adds time, merges with another
count and starts afresh, in any order (`Tally.Reached`).  Whatever has been done, what has come out
is the tally of some records:

* `Tally.record_at_key` — recording in an entry adds a record with one decision under its key,
* `Tally.Reached.exists_records` — so a tally that is reached counts some records, whose keys were
  first seen in the same order,
* `PassRecord.sum_countP_decisionsOf` — what is decided under the keys is all that is decided,
* `PassTally.fits_ofDecisions` — as many signatures are known as variants at most, and some if there
  are variants.

`Tally.Reached.agrees` says all of this of the tally itself.
-/
import Mathlib.Algebra.BigOperators.Group.List.Basic
import VariantStrip.Proofs.Bookkeeping
import VariantStrip.Proofs.History

namespace VariantStrip

/-! ### One of two outcomes -/

namespace PassTally

/-- The number of the variants of a pass that were kept, or that were stripped. -/
def count (p : PassTally) (kept : Bool) : Nat := if kept then p.includeCount else p.stripCount

/-- The signatures of the variants of a pass that were kept, or that were stripped. -/
def signatures (p : PassTally) (kept : Bool) : StringSet := if kept then p.included else p.stripped

theorem count_ofDecisions (ds : List (String × Bool)) (kept : Bool) :
    (ofDecisions ds).count kept = ds.countP fun d => d.2 == kept := by
  cases kept <;> simp [count, ofDecisions]

theorem signatures_ofDecisions (ds : List (String × Bool)) (kept : Bool) :
    (ofDecisions ds).signatures kept = .ofList ((ds.filter fun d => d.2 == kept).map (·.1)) := by
  cases kept <;> simp [signatures, ofDecisions]

/-- The number of signatures of a pass fits the number of variants: there are some if there are
variants, and no more than these. -/
structure Fits (p : PassTally) (kept : Bool) : Prop where
  le : (p.signatures kept).size ≤ p.count kept
  pos : p.count kept ≠ 0 → 0 < (p.signatures kept).size

theorem fits_ofDecisions (ds : List (String × Bool)) (kept : Bool) :
    (ofDecisions ds).Fits kept := by
  constructor
  · rw [signatures_ofDecisions, count_ofDecisions, List.countP_eq_length_filter,
      ← List.length_map (f := (·.1))]
    exact StringSet.size_ofList_le _
  · intro hcount
    rw [count_ofDecisions, Ne, List.countP_eq_zero, not_forall] at hcount
    obtain ⟨d, hd⟩ := hcount
    rw [Classical.not_imp, not_not] at hd
    refine StringSet.size_pos_of_mem (k := d.1) ?_
    rw [signatures_ofDecisions, StringSet.mem_ofList]
    exact List.mem_map_of_mem (List.mem_filter.mpr hd)

end PassTally

/-! ### Records -/

namespace PassRecord

theorem keys_append (rs ss : List PassRecord) :
    keys (rs ++ ss) = (keys rs ++ keys ss).eraseDups := by
  rw [keys, keys, keys, List.map_append, eraseDups_eraseDups_append, eraseDups_append_eraseDups]

/-- **What is decided under the keys is all that is decided.** -/
theorem sum_countP_decisionsOf {ks : List String} (hks : ks.Nodup) {rs : List PassRecord}
    (hmem : ∀ r ∈ rs, r.key ∈ ks) (p : String × Bool → Bool) :
    (ks.map fun key => (decisionsOf rs key).countP p).sum =
      (rs.flatMap (·.decisions)).countP p := by
  induction rs with
  | nil => simp [decisionsOf]
  | cons r rs ih =>
    rw [List.forall_mem_cons] at hmem
    have hcons (key : String) : (decisionsOf (r :: rs) key).countP p =
        (if key = r.key then r.decisions.countP p else 0) + (decisionsOf rs key).countP p := by
      rw [← List.singleton_append, decisionsOf_append, decisionsOf_singleton, List.countP_append]
      split <;> rfl
    -- The decisions of the first record are counted under its own key only.
    have hfirst : (ks.map fun key => if key = r.key then r.decisions.countP p else 0).sum =
        r.decisions.countP p := by
      rw [List.sum_map_eq_nsmul_single r.key _ fun key hkey _ => if_neg hkey,
        List.count_eq_one_of_mem hks hmem.1, one_nsmul, if_pos rfl]
    simp only [hcons, List.sum_map_add, hfirst, ih hmem.2, List.flatMap_cons, List.countP_append]

end PassRecord

namespace Tally

open PassRecord

/-- The total of the variants that were kept, or that were stripped. -/
def total (t : Tally) (kept : Bool) : Nat := if kept then t.included else t.stripped

theorem total_ofRecords (rs : List PassRecord) (kept : Bool) :
    (ofRecords rs).total kept = ((entriesOf rs).map fun e => e.2.count kept).sum := by
  have hall : (ofRecords rs).total kept =
      (rs.flatMap (·.decisions)).countP fun d => d.2 == kept := by
    cases kept <;> simp [total, ofRecords]
  have hkeys : ∀ r ∈ rs, r.key ∈ keys rs := fun r hr => mem_keys.mpr ⟨r, hr, rfl⟩
  rw [hall, ← sum_countP_decisionsOf (nodup_keys rs) hkeys, entriesOf, List.map_map]
  simp only [Function.comp_def, PassTally.count_ofDecisions]

/-- A pass that has been seen gets no new entry. -/
theorem ofRecords_seen {rs : List PassRecord} {key : String} (hkey : key ∈ keys rs) :
    ofRecords (rs ++ [⟨key, []⟩]) = ofRecords rs := by
  have hkeys : keys (rs ++ [⟨key, []⟩]) = keys rs := by rw [keys_concat, if_pos hkey]
  simp [ofRecords, entriesOf, hkeys, decisionsOf_append, decisionsOf_singleton]

/-- **Recording in an entry** adds a decision under its key. -/
theorem record_at_key {rs : List PassRecord} {slot : Nat} {key : String}
    (hslot : (keys rs)[slot]? = some key) (signature : String) (kept : Bool) :
    (ofRecords rs).record slot signature kept =
      ofRecords (rs ++ [⟨key, [(signature, kept)]⟩]) := by
  obtain ⟨hlt, rfl⟩ := List.getElem?_eq_some_iff.mp hslot
  have hkey : (keys rs)[slot] ∈ keys rs := List.getElem_mem hlt
  have hposition : position rs (keys rs)[slot] = slot := by
    rw [position, keys_concat, if_pos hkey, (nodup_keys rs).idxOf_getElem]
  have hrecord := record_ofRecords rs (keys rs)[slot] [] signature kept
  rwa [hposition, ofRecords_seen hkey] at hrecord

/-! ### Tallies but for their times -/

section

variable {t u : Tally} {rs ss : List PassRecord}

theorem passKeys_of_untimed (ht : t.untimed = ofRecords rs) : t.passKeys = keys rs := by
  have hentries : t.entries = entriesOf rs := congrArg (·.entries) ht
  rw [passKeys, hentries, map_fst_entriesOf]

theorem untimed_slot (ht : t.untimed = ofRecords rs) (key : String) :
    (t.slot key).2.untimed = ofRecords (rs ++ [⟨key, []⟩]) := by
  have hslot := t.slot_untimed key
  rw [ht, slot_ofRecords] at hslot
  exact (congrArg (·.2) hslot).symm

theorem untimed_record (ht : t.untimed = ofRecords rs) {slot : Nat} {key : String}
    (hslot : t.passKeys[slot]? = some key) (signature : String) (kept : Bool) :
    (t.record slot signature kept).untimed = ofRecords (rs ++ [⟨key, [(signature, kept)]⟩]) := by
  rw [passKeys_of_untimed ht] at hslot
  rw [← record_at_key hslot, ← ht]
  rfl

theorem untimed_merge (ht : t.untimed = ofRecords rs) (hu : u.untimed = ofRecords ss) :
    (t.merge u).untimed = ofRecords (rs ++ ss) := by
  rw [← merge_untimed, ht, hu, merge_ofRecords]

end

/-! ### Counting in any order -/

/-- The tallies that counting leads to, with the keys that have been seen since the last start, in
order. -/
inductive Reached : List String → Tally → Prop
  /-- A new tally, which a reset leads to as well. -/
  | start : Reached [] {}
  /-- The entry of a key is looked up, and made if there is none. -/
  | slot {seen : List String} {t : Tally} (h : Reached seen t) (key : String) :
    Reached (seen ++ [key]) (t.slot key).2
  /-- A variant is recorded in an entry. -/
  | record {seen : List String} {t : Tally} (h : Reached seen t) {slot : Nat}
    (hslot : slot < t.entries.length) (signature : String) (kept : Bool) :
    Reached seen (t.record slot signature kept)
  | addStripTime {seen : List String} {t : Tally} (h : Reached seen t) (micros : Nat) :
    Reached seen (t.addStripTime micros)
  | merge {seen seen' : List String} {t u : Tally} (h : Reached seen t) (h' : Reached seen' u) :
    Reached (seen ++ seen') (t.merge u)

/-- **A tally that is reached counts some records**, whatever time was spent on them. -/
theorem Reached.exists_records {seen : List String} {t : Tally} (h : Reached seen t) :
    ∃ rs, t.untimed = ofRecords rs ∧ keys rs = seen.eraseDups := by
  induction h with
  | start => exact ⟨[], rfl, rfl⟩
  | @slot seen t _ key ih =>
    obtain ⟨rs, ht, hkeys⟩ := ih
    refine ⟨rs ++ [⟨key, []⟩], untimed_slot ht key, ?_⟩
    rw [keys_append, hkeys, eraseDups_eraseDups_append]
    rfl
  | @record seen t _ slot hslot signature kept ih =>
    obtain ⟨rs, ht, hkeys⟩ := ih
    rw [← List.length_map (f := (·.1)), ← passKeys] at hslot
    have hkey : t.passKeys[slot] ∈ keys rs := passKeys_of_untimed ht ▸ List.getElem_mem hslot
    refine ⟨rs ++ [⟨t.passKeys[slot], [(signature, kept)]⟩],
      untimed_record ht (List.getElem?_eq_getElem hslot) signature kept, ?_⟩
    rw [keys_concat, if_pos hkey, hkeys]
  | addStripTime _ _ ih => exact ih
  | @merge seen seen' t u _ _ ih ih' =>
    obtain ⟨rs, ht, hkeys⟩ := ih
    obtain ⟨ss, hu, hkeys'⟩ := ih'
    refine ⟨rs ++ ss, untimed_merge ht hu, ?_⟩
    rw [keys_append, hkeys, hkeys', eraseDups_eraseDups_append, eraseDups_append_eraseDups]

/-- **The parts of a tally agree.**  There is one entry for each key that has been seen, in the
order in which the keys were first seen; the totals are sums over the entries; and in each entry
the numbers of signatures fit the numbers of variants. -/
structure Agrees (t : Tally) (seen : List String) : Prop where
  entries : t.entries = seen.eraseDups.map fun key => (key, (t.entry? key).getD {})
  total : ∀ kept, t.total kept = (t.entries.map fun e => e.2.count kept).sum
  fits : ∀ e ∈ t.entries, ∀ kept, e.2.Fits kept

theorem Reached.agrees {seen : List String} {t : Tally} (h : Reached seen t) : t.Agrees seen := by
  obtain ⟨rs, ht, hkeys⟩ := h.exists_records
  have hentries : t.entries = entriesOf rs := congrArg (·.entries) ht
  have htotal (kept : Bool) : t.total kept = (ofRecords rs).total kept :=
    congrArg (·.total kept) ht
  refine ⟨?_, fun kept => ?_, fun e he kept => ?_⟩
  · rw [hentries, entriesOf, hkeys]
    refine List.map_congr_left fun key hkey => ?_
    have hentry : t.entry? key = Tally.entry? (ofRecords rs) key := by
      rw [← ht]
      rfl
    rw [hentry, entry?_ofRecords, hkeys, if_pos hkey, Option.getD_some]
  · rw [htotal, total_ofRecords, hentries]
  · rw [hentries] at he
    obtain ⟨key, -, rfl⟩ := List.mem_map.mp he
    exact PassTally.fits_ofDecisions _ kept

end Tally

end VariantStrip
