/-
The index of a tally stays exact.

An index is exact if it leads from each key to its position and from nothing else anywhere
(`IndexedTally.Exact`).  Each operation on a tally with an exact index has a result, does what the
operation of the same name does to a tally without an index, and leaves the index exact
(`IndexedTally.Continues`):

* `IndexedTally.Exact.continues_slot` — looking up a position,
* `IndexedTally.Exact.exists_record` — recording at a position that belongs to an entry,
* `IndexedTally.Exact.exists_merge` — merging, entry by entry.

No entry is ever moved or removed, so a position that has been looked up stays the position of its
key.  `IndexedTally.Reached` says which tallies come out of operations in any order, and which
positions are held at that time; the main result is `IndexedTally.index_stays_exact`.
-/
import VariantStrip.Proofs.ReachedTally
import VariantStrip.Tally.Indexed

namespace VariantStrip

/-- There are no signatures of an outcome if and only if there are no variants. -/
theorem PassTally.Fits.isEmpty_iff {p : PassTally} {kept : Bool} (h : p.Fits kept) :
    (p.signatures kept).isEmpty = true ↔ p.count kept = 0 := by
  have hle := h.le
  have hpos := h.pos
  rw [StringSet.isEmpty, List.isEmpty_iff_length_eq_zero]
  rw [StringSet.size] at hle hpos
  omega

namespace Tally

/-- Entries that are merged do not change the totals or the time. -/
theorem foldl_mergeEntry_eq (es : List (String × PassTally)) (t : Tally) :
    es.foldl mergeEntry t = { t with entries := (es.foldl mergeEntry t).entries } := by
  induction es generalizing t with
  | nil => rfl
  | cons e es ih =>
    rw [List.foldl_cons, ih (t.mergeEntry e), mergeEntry, slot_eq]

end Tally

namespace IndexedTally

variable {t t' t'' u : IndexedTally} {x y : Tally}

/-! ### Exact indices -/

/-- The index leads from each key to its position, and from nothing else anywhere. -/
def Exact (t : IndexedTally) : Prop :=
  ∀ (key : String) (i : Nat), t.index[key]? = some i ↔ t.passKeys[i]? = some key

theorem exact_start (now : Nat) : (start now).Exact := by
  intro key i
  simp [start, Tally.passKeys]

/-- Keys and index are all that matters. -/
theorem Exact.congr (h : t.Exact) (hindex : t'.index = t.index)
    (hkeys : t'.passKeys = t.passKeys) : t'.Exact := by
  intro key i
  rw [hindex, hkeys]
  exact h key i

/-- No two entries have the same key, since the index leads to one of them only. -/
theorem Exact.nodup (h : t.Exact) : t.passKeys.Nodup := by
  rw [List.nodup_iff_getElem?_ne_getElem?]
  intro i j hij hj heq
  have hkey := List.getElem?_eq_getElem hj
  have hi := (h _ i).mpr (heq.trans hkey)
  rw [(h _ j).mpr hkey, Option.some.injEq] at hi
  omega

theorem Exact.index_eq (h : t.Exact) (key : String) :
    t.index[key]? = if key ∈ t.passKeys then some (t.passKeys.idxOf key) else none := by
  by_cases hkey : key ∈ t.passKeys
  · rw [if_pos hkey, h, List.getElem?_idxOf hkey]
  · rw [if_neg hkey, Option.eq_none_iff_forall_ne_some]
    intro i hi
    exact hkey (List.mem_of_getElem? ((h key i).mp hi))

/-- An index is extended by the next key. -/
theorem Exact.insert (h : t.Exact) {key : String} (hkey : key ∉ t.passKeys)
    (hindex : t'.index = t.index.insert key t.passKeys.length)
    (hkeys : t'.passKeys = t.passKeys ++ [key]) : t'.Exact := by
  intro k i
  rw [hindex, hkeys, Std.HashMap.getElem?_insert, List.getElem?_append]
  by_cases hk : key = k
  · -- The key stands at the end, and nowhere before.
    subst hk
    have hbefore : t.passKeys[i]? ≠ some key := fun hi => hkey (List.mem_of_getElem? hi)
    grind
  · -- Another key does not stand at the end.
    have hk' : (key == k) = false := beq_eq_false_iff_ne.mpr hk
    have hold := h k i
    grind

/-! ### Operations -/

/-- A tally goes on as another one, which counts what a tally without an index counts.  Entries are
only added at the end, and the time at which counting began stays. -/
structure Continues (t t' : IndexedTally) (x : Tally) : Prop where
  toTally : t'.toTally = x
  exact : t'.Exact
  keys : t.passKeys <+: t'.passKeys
  started : t'.started = t.started

theorem Continues.trans (h : t.Continues t' x) (h' : t'.Continues t'' y) : t.Continues t'' y where
  toTally := h'.toTally
  exact := h'.exact
  keys := h.keys.trans h'.keys
  started := h'.started.trans h.started

/-- **Looking up a position.** -/
theorem Exact.continues_slot (h : t.Exact) (key : String) :
    (t.slot key).1 = (t.toTally.slot key).1 ∧
      t.Continues (t.slot key).2 (t.toTally.slot key).2 := by
  rw [slot, h.index_eq, Tally.slot_eq, Tally.opened]
  by_cases hkey : key ∈ t.passKeys
  · rw [if_pos hkey, if_pos hkey]
    exact ⟨rfl, rfl, h, List.prefix_refl _, rfl⟩
  · -- A new key gets the position after the last entry, in the entries as in the index.
    have hlength : t.passKeys.length = t.entries.length := List.length_map _
    have hend : t.passKeys.idxOf key = t.entries.length := by
      rw [List.idxOf_eq_length hkey, hlength]
    rw [if_neg hkey, if_neg hkey, hend]
    let opened : IndexedTally := { t with
      entries := t.entries ++ [(key, {})]
      index := t.index.insert key t.entries.length }
    have hkeys : opened.passKeys = t.passKeys ++ [key] := List.map_append
    have hexact : opened.Exact := h.insert hkey (by rw [hlength]) hkeys
    exact ⟨rfl, rfl, hexact, hkeys ▸ List.prefix_append _ _, rfl⟩

/-- The index leads to the position that has been looked up. -/
theorem index_slot (t : IndexedTally) (key : String) :
    (t.slot key).2.index[key]? = some (t.slot key).1 := by
  rw [slot]
  cases hi : t.index[key]? with
  | some i => exact hi
  | none => exact Std.HashMap.getElem?_insert_self

/-- The key that has been looked up stands at the position. -/
theorem Exact.passKeys_slot (h : t.Exact) (key : String) :
    (t.slot key).2.passKeys[(t.slot key).1]? = some key :=
  ((h.continues_slot key).2.exact key _).mp (t.index_slot key)

theorem lt_length_of_passKeys {slot : Nat} {key : String} (h : t.passKeys[slot]? = some key) :
    slot < t.entries.length := by
  obtain ⟨hlt, -⟩ := List.getElem?_eq_some_iff.mp h
  rwa [Tally.passKeys, List.length_map] at hlt

/-- Counts that change in an entry do not concern the index. -/
theorem Exact.exists_change (h : t.Exact) {slot : Nat} (hslot : slot < t.entries.length)
    (f : PassTally → PassTally) :
    ∃ t', t.change? slot f = some t' ∧
      t.Continues t' { t.toTally with entries := t.entries.modify slot (Tally.changed f) } := by
  let changed : IndexedTally := { t with entries := t.entries.modify slot (Tally.changed f) }
  have hkeys : changed.passKeys = t.passKeys := Tally.map_fst_modify f slot t.entries
  have hexact : changed.Exact := h.congr rfl hkeys
  exact ⟨changed, if_pos hslot, rfl, hexact, hkeys ▸ List.prefix_refl _, rfl⟩

/-- Neither do totals and times. -/
theorem Continues.map (h : t.Continues t' x) {f : Tally → Tally}
    (hf : ∀ y, (f y).entries = y.entries) :
    t.Continues { t' with toTally := f t'.toTally } (f x) := by
  let mapped : IndexedTally := { t' with toTally := f t'.toTally }
  have hkeys : mapped.passKeys = t'.passKeys := congrArg (List.map Prod.fst) (hf t'.toTally)
  exact ⟨congrArg f h.toTally, h.exact.congr rfl hkeys, hkeys ▸ h.keys, h.started⟩

/-- **Recording at the position of an entry.** -/
theorem Exact.exists_record (h : t.Exact) {slot : Nat} (hslot : slot < t.entries.length)
    (signature : String) (kept : Bool) :
    ∃ t', t.record? slot signature kept = some t' ∧
      t.Continues t' (t.toTally.record slot signature kept) := by
  obtain ⟨changed, hchanged, hcontinues⟩ :=
    h.exists_change hslot fun p => p.record signature kept
  let count (y : Tally) : Tally := { y with
    included := if kept then y.included + 1 else y.included
    stripped := if kept then y.stripped else y.stripped + 1 }
  have hcounted := hcontinues.map (f := count) fun _ => rfl
  exact ⟨_, by rw [record?, hchanged]; rfl, hcounted⟩

/-- Merging one entry: the position that its key gets belongs to an entry. -/
theorem Exact.exists_mergeEntry (h : t.Exact) (entry : String × PassTally) :
    ∃ t', t.mergeEntry? entry = some t' ∧ t.Continues t' (t.toTally.mergeEntry entry) := by
  obtain ⟨hslot, hopened⟩ := h.continues_slot entry.1
  -- Looking the key up has made an entry if there was none.
  have hlt := lt_length_of_passKeys (h.passKeys_slot entry.1)
  obtain ⟨t', ht', hchanged⟩ := hopened.exact.exists_change hlt fun p => p.merge entry.2
  have htrans := hopened.trans hchanged
  rw [hslot, hopened.toTally] at htrans
  exact ⟨t', ht', htrans⟩

theorem Exact.exists_foldlM_mergeEntry (h : t.Exact) (es : List (String × PassTally)) :
    ∃ t', es.foldlM mergeEntry? t = some t' ∧
      t.Continues t' (es.foldl Tally.mergeEntry t.toTally) := by
  induction es generalizing t with
  | nil => exact ⟨t, rfl, rfl, h, List.prefix_refl _, rfl⟩
  | cons e es ih =>
    obtain ⟨t₁, ht₁, hfirst⟩ := h.exists_mergeEntry e
    obtain ⟨t', ht', hrest⟩ := ih hfirst.exact
    refine ⟨t', ?_, ?_⟩
    · rw [List.foldlM_cons, ht₁]
      exact ht'
    · rw [List.foldl_cons, ← hfirst.toTally]
      exact hfirst.trans hrest

/-- **Merging**, whatever is merged. -/
theorem Exact.exists_merge (h : t.Exact) (u : IndexedTally) :
    ∃ t', t.merge? u = some t' ∧ t.Continues t' (t.toTally.merge u.toTally) := by
  obtain ⟨merged, hmerged, hcontinues⟩ := h.exists_foldlM_mergeEntry u.entries
  let addTotals (y : Tally) : Tally := { y with
    included := y.included + u.included
    stripped := y.stripped + u.stripped
    stripTime := y.stripTime + u.stripTime }
  have htotals := hcontinues.map (f := addTotals) fun _ => rfl
  have hmerge : t.toTally.merge u.toTally =
      addTotals (u.entries.foldl Tally.mergeEntry t.toTally) := by
    rw [Tally.merge, Tally.foldl_mergeEntry_eq]
  rw [hmerge]
  exact ⟨_, by rw [merge?, hmerged]; rfl, htotals⟩

/-! ### Entries -/

/-- What is found under a key through the index are the entries. -/
theorem Exact.entry?_eq_some_iff (h : t.Exact) {key : String} {p : PassTally} :
    t.entry? key = some p ↔ (key, p) ∈ t.entries := by
  have hentry : t.entry? key = some p ↔ ∃ i, t.index[key]? = some i ∧
      ∃ k, t.entries[i]? = some (k, p) := by
    simp [Option.bind_eq_some_iff, entry?]
  rw [hentry, List.mem_iff_getElem?]
  -- The index leads to a position exactly if the key stands there.
  refine exists_congr fun i => ?_
  rw [h key i, Tally.passKeys, List.getElem?_map]
  constructor
  · rintro ⟨hkey, k, hi⟩
    rw [hi, Option.map_some, Option.some.injEq] at hkey
    rw [hi, ← hkey]
  · intro hi
    rw [hi]
    exact ⟨rfl, key, rfl⟩

/-- So it is what a search of the entries finds. -/
theorem Exact.entry?_eq (h : t.Exact) (key : String) : t.entry? key = t.toTally.entry? key := by
  unfold Tally.entry?
  cases hp : t.entries.lookup key with
  | some p => exact h.entry?_eq_some_iff.mpr (List.mem_of_getElem? (Tally.getElem?_of_lookup hp))
  | none =>
    rw [Option.eq_none_iff_forall_ne_some]
    intro p hfound
    exact absurd (List.lookup_eq_none_iff.mp hp _ (h.entry?_eq_some_iff.mp hfound)) (by simp)

/-! ### Operations in any order -/

/-- The tallies that operations lead to, with the positions that have been looked up since the last
start, each with the key that it was looked up for. -/
inductive Reached : List (String × Nat) → IndexedTally → Prop
  | start (now : Nat) : Reached [] (start now)
  | reset {held : List (String × Nat)} {t : IndexedTally} (h : Reached held t) (now : Nat) :
    Reached [] (t.reset now)
  | slot {held : List (String × Nat)} {t : IndexedTally} (h : Reached held t) (key : String) :
    Reached (held ++ [(key, (t.slot key).1)]) (t.slot key).2
  /-- A variant is recorded at a position that has been looked up. -/
  | record {held : List (String × Nat)} {t t' : IndexedTally} (h : Reached held t) {key : String}
    {slot : Nat} (hheld : (key, slot) ∈ held) {signature : String} {kept : Bool}
    (hrecord : t.record? slot signature kept = some t') : Reached held t'
  | addStripTime {held : List (String × Nat)} {t : IndexedTally} (h : Reached held t)
    (micros : Nat) : Reached held (t.addStripTime micros)
  /-- Another tally is merged; its positions are not those of this one. -/
  | merge {held held' : List (String × Nat)} {t t' u : IndexedTally} (h : Reached held t)
    (h' : Reached held' u) (hmerge : t.merge? u = some t') : Reached held t'

/-- What holds of a tally that operations lead to. -/
structure Sound (held : List (String × Nat)) (t : IndexedTally) : Prop where
  exact : t.Exact
  held : ∀ key slot, (key, slot) ∈ held → t.passKeys[slot]? = some key
  reached : ∃ seen, t.toTally.Reached seen

/-- A tally that goes on stays sound, and positions stay those of their keys. -/
theorem Sound.continues {held : List (String × Nat)} (h : Sound held t) (ht : t.Continues t' x)
    (hx : ∃ seen, x.Reached seen) : Sound held t' := by
  refine ⟨ht.exact, fun key slot hmem => ?_, ht.toTally ▸ hx⟩
  obtain ⟨rest, hrest⟩ := ht.keys
  have hslot := h.held key slot hmem
  obtain ⟨hlt, -⟩ := List.getElem?_eq_some_iff.mp hslot
  rw [← hrest, List.getElem?_append_left hlt, hslot]

theorem Reached.sound {held : List (String × Nat)} (h : t.Reached held) : t.Sound held := by
  -- Nothing is held at the start.
  have hstart (now : Nat) : Sound [] (IndexedTally.start now) :=
    ⟨exact_start now, fun _ _ hmem => absurd hmem List.not_mem_nil, _, .start⟩
  induction h with
  | start now => exact hstart now
  | reset _ now _ => exact hstart now
  | @slot held t _ key ih =>
    obtain ⟨hslot, hcontinues⟩ := ih.exact.continues_slot key
    obtain ⟨seen, hseen⟩ := ih.reached
    have hold := ih.continues hcontinues ⟨_, hseen.slot key⟩
    refine ⟨hold.exact, fun k slot hmem => ?_, hold.reached⟩
    rcases List.mem_append.mp hmem with hmem | hmem
    · exact hold.held k slot hmem
    · obtain ⟨rfl, rfl⟩ := Prod.mk.inj (List.mem_singleton.mp hmem)
      exact ih.exact.passKeys_slot k
  | @record held t t' _ key slot hheld signature kept hrecord ih =>
    -- The position that is held belongs to an entry, so there is a result, and it is `t'`.
    have hlt := lt_length_of_passKeys (ih.held key slot hheld)
    obtain ⟨seen, hseen⟩ := ih.reached
    obtain ⟨u, hu, hcontinues⟩ := ih.exact.exists_record hlt signature kept
    rw [hrecord, Option.some.injEq] at hu
    rw [hu]
    exact ih.continues hcontinues ⟨_, hseen.record hlt signature kept⟩
  | @addStripTime held t _ micros ih =>
    obtain ⟨seen, hseen⟩ := ih.reached
    exact ⟨ih.exact, ih.held, _, hseen.addStripTime micros⟩
  | @merge held held' t t' u _ _ hmerge ih ih' =>
    obtain ⟨seen, hseen⟩ := ih.reached
    obtain ⟨seen', hseen'⟩ := ih'.reached
    obtain ⟨v, hv, hcontinues⟩ := ih.exact.exists_merge u
    rw [hmerge, Option.some.injEq] at hv
    rw [hv]
    exact ih.continues hcontinues ⟨_, hseen.merge hseen'⟩

/-- **The index of a tally stays exact.**  Take a tally that operations lead to, in any order, and
the positions that have been looked up since the last start.

* No key has two entries, and the index leads from each key to its position, and from nothing else
  anywhere.  So what is found under a key are the entries, and it is what a search of them finds.
* A position that has been looked up is still that of its key, and looking the key up again gives
  the same position.
* Looking up any key, recording at a position that has been looked up and merging any tally of this
  kind have results, which count what they count without an index.
* The totals are the sums over the entries.  In each entry, for the variants kept as for those
  stripped, there are no signatures if and only if there are no variants, and never more of them. -/
theorem index_stays_exact {held : List (String × Nat)} (h : t.Reached held) :
    t.passKeys.Nodup ∧
      (∀ (key : String) (i : Nat), t.index[key]? = some i ↔ t.passKeys[i]? = some key) ∧
      (∀ key p, t.entry? key = some p ↔ (key, p) ∈ t.entries) ∧
      (∀ key, t.entry? key = t.toTally.entry? key) ∧
      (∀ key slot, (key, slot) ∈ held → t.passKeys[slot]? = some key ∧ t.slot key = (slot, t)) ∧
      (∀ key, ((t.slot key).1, (t.slot key).2.toTally) = t.toTally.slot key) ∧
      (∀ key slot, (key, slot) ∈ held → ∀ signature kept, ∃ t',
        t.record? slot signature kept = some t' ∧
          t'.toTally = t.toTally.record slot signature kept) ∧
      (∀ held' u, u.Reached held' → ∃ t', t.merge? u = some t' ∧
        t'.toTally = t.toTally.merge u.toTally) ∧
      (∀ kept, t.total kept = (t.entries.map fun e => e.2.count kept).sum) ∧
      ∀ e ∈ t.entries, ∀ kept,
        ((e.2.signatures kept).isEmpty = true ↔ e.2.count kept = 0) ∧
          (e.2.signatures kept).size ≤ e.2.count kept := by
  obtain ⟨hexact, hheld, seen, hseen⟩ := h.sound
  have hagrees := hseen.agrees
  refine ⟨hexact.nodup, hexact, fun key p => hexact.entry?_eq_some_iff, hexact.entry?_eq,
    fun key slot hmem => ⟨hheld key slot hmem, ?_⟩, fun key => ?_,
    fun key slot hmem signature kept => ?_, fun _ u _ => ?_, hagrees.total,
    fun e he kept => ⟨(hagrees.fits e he kept).isEmpty_iff, (hagrees.fits e he kept).le⟩⟩
  · rw [IndexedTally.slot, (hexact key slot).mpr (hheld key slot hmem)]
  · obtain ⟨hslot, hcontinues⟩ := hexact.continues_slot key
    exact Prod.ext hslot hcontinues.toTally
  · have hlt := lt_length_of_passKeys (hheld key slot hmem)
    obtain ⟨t', ht', hcontinues⟩ := hexact.exists_record hlt signature kept
    exact ⟨t', ht', hcontinues.toTally⟩
  · obtain ⟨t', ht', hcontinues⟩ := hexact.exists_merge u
    exact ⟨t', ht', hcontinues.toTally⟩

/-- What is counted of two passes of a shader, in two parts of a build. -/
def saltTally : Tally where
  entries := [
    ("Salt::Normal::P", { includeCount := 1, included := .ofList ["FOG"] }),
    ("Salt::Meta::P", {})]
  included := 1

/-- A variant is recorded at a position that has been looked up, and a part with another key is
merged. -/
theorem index_stays_exact_salt :
    ∃ t, Reached [("Salt::Normal::P", 0)] t ∧ t.toTally = saltTally ∧
      t.index["Salt::Meta::P"]? = some 1 ∧ t.entry? "Salt::Meta::P" = some {} ∧
      t.slot "Salt::Normal::P" = (0, t) ∧
      ∃ t', t.record? 0 "FOG" false = some t' ∧ t'.toTally = saltTally.record 0 "FOG" false := by
  have hslot (now : Nat) (key : String) : ((start now).slot key).1 = 0 ∧
      ((start now).slot key).2.toTally = { entries := [(key, {})] } := by
    obtain ⟨-, -, -, -, -, hplain, -⟩ := index_stays_exact (.start now)
    exact Prod.mk.inj (hplain key)
  have hopened := (Reached.start 0).slot "Salt::Normal::P"
  rw [(hslot 0 _).1] at hopened
  obtain ⟨-, -, -, -, -, -, hrecord, -⟩ := index_stays_exact hopened
  obtain ⟨counted, hcounted, hcountedPlain⟩ := hrecord _ _ List.mem_cons_self "FOG" true
  have hreached := hopened.record List.mem_cons_self hcounted
  obtain ⟨-, -, -, -, -, -, -, hmerge, -⟩ := index_stays_exact hreached
  obtain ⟨t, ht, htPlain⟩ := hmerge _ _ ((Reached.start 7).slot "Salt::Meta::P")
  have hmerged := hreached.merge ((Reached.start 7).slot "Salt::Meta::P") ht
  have hplain : t.toTally = saltTally := by
    rw [htPlain, hcountedPlain, (hslot 0 _).2, (hslot 7 _).2]
    decide +kernel
  obtain ⟨-, hindex, hentry, -, hheld, -, hagain, -⟩ := index_stays_exact hmerged
  refine ⟨t, hmerged, hplain, (hindex _ _).mpr ?_, (hentry _ _).mpr ?_,
    (hheld _ _ List.mem_cons_self).2, ?_⟩
  · rw [hplain]
    decide +kernel
  · rw [hplain]
    decide +kernel
  · rw [← hplain]
    exact hagain _ _ List.mem_cons_self "FOG" false

end IndexedTally

end VariantStrip
