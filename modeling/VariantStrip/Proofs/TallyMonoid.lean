/-
Merging tallies makes a monoid.

What has been counted may be cut into parts anywhere, since merging is associative and a new tally
adds nothing.  Merging appends the records that tallies stand for, so the laws are those of lists:

* `Tally.Reached.merge_assoc` — three parts, in whichever order they are put together,
* `Tally.Reached.start_merge` — a new tally in front,
* `Tally.Reached.sameCounts_merge` — two parts that change places: nothing differs but the order of
  the keys,
* `Tally.Reached.passKeys_merge` — which is that of the first part, followed by what is new in the
  second.

An exact index depends on the order of the keys only (`IndexedTally.Exact.alike`), so the laws are
those of tallies with an index too, but for the time at which counting began.  The main result is
`IndexedTally.merging_is_a_monoid`.
-/
import VariantStrip.Proofs.Batching
import VariantStrip.Proofs.IndexedTally

namespace VariantStrip

namespace Tally

open PassRecord

variable {t u v : Tally} {seen seen' seen'' : List String}

theorem eq_of_untimed (h : t.untimed = u.untimed) (htime : t.stripTime = u.stripTime) : t = u := by
  cases t
  cases u
  simp_all [untimed]

/-- **Three parts.** -/
theorem Reached.merge_assoc (ht : t.Reached seen) (hu : u.Reached seen') (hv : v.Reached seen'') :
    (t.merge u).merge v = t.merge (u.merge v) := by
  -- The tallies stand for records, and merging appends these.
  obtain ⟨rs, ht, -⟩ := ht.exists_records
  obtain ⟨ss, hu, -⟩ := hu.exists_records
  obtain ⟨ps, hv, -⟩ := hv.exists_records
  refine eq_of_untimed ?_ (Nat.add_assoc _ _ _)
  rw [untimed_merge (untimed_merge ht hu) hv, untimed_merge ht (untimed_merge hu hv),
    List.append_assoc]

/-- **A new tally in front** adds nothing. -/
theorem Reached.start_merge (ht : t.Reached seen) : Tally.merge {} t = t := by
  obtain ⟨rs, ht, -⟩ := ht.exists_records
  have hnew : untimed {} = ofRecords [] := rfl
  refine eq_of_untimed ?_ (Nat.zero_add _)
  rw [untimed_merge hnew ht, ht, List.nil_append]

/-- **Two parts that change places.** -/
theorem Reached.sameCounts_merge (ht : t.Reached seen) (hu : u.Reached seen') :
    (t.merge u).SameCounts (u.merge t) := by
  obtain ⟨rs, ht, -⟩ := ht.exists_records
  obtain ⟨ss, hu, -⟩ := hu.exists_records
  have hsame : (ofRecords (rs ++ ss)).SameCounts (ofRecords (ss ++ rs)) :=
    sameCounts_of_perm List.perm_append_comm
  rw [← untimed_merge ht hu, ← untimed_merge hu ht] at hsame
  exact ⟨hsame.included, hsame.stripped, Nat.add_comm _ _, hsame.entry?, hsame.entries⟩

/-- **The order of the keys.** -/
theorem Reached.passKeys_merge (ht : t.Reached seen) (hu : u.Reached seen') :
    (t.merge u).passKeys = t.passKeys ++ u.passKeys.filter (· ∉ t.passKeys) := by
  obtain ⟨rs, ht, -⟩ := ht.exists_records
  obtain ⟨ss, hu, -⟩ := hu.exists_records
  rw [passKeys_of_untimed (untimed_merge ht hu), passKeys_of_untimed ht, passKeys_of_untimed hu,
    keys_append, eraseDups_append_of_nodup (nodup_keys rs) (nodup_keys ss)]

end Tally

namespace IndexedTally

/-- Nothing differs but the time at which counting began. -/
structure Alike (t u : IndexedTally) : Prop where
  toTally : t.toTally = u.toTally
  index : t.index.Equiv u.index

variable {a b c : IndexedTally} {as bs cs : List (String × Nat)}

/-- An exact index is determined by the order of the keys. -/
theorem Exact.alike (ha : a.Exact) (hb : b.Exact) (h : a.toTally = b.toTally) : a.Alike b := by
  refine ⟨h, .of_forall_getElem?_eq fun key => ?_⟩
  rw [ha.index_eq, hb.index_eq, h]

/-- **Merging is a monoid.**  Take three tallies that operations lead to.

* Merging the third into the first two gives what merging the last two into the first gives: the
  same entries in the same order, the same index, totals and time.
* A new tally adds nothing, be it first or second.
* Two tallies that change places give the same totals and the same time, and the same entry under
  each key.  The keys are those of the first tally, followed by those that are new in the second,
  and the time at which counting began is that of the first. -/
theorem merging_is_a_monoid (ha : a.Reached as) (hb : b.Reached bs) (hc : c.Reached cs) :
    ∃ ab bc ba left right,
      a.merge? b = some ab ∧ b.merge? c = some bc ∧ b.merge? a = some ba ∧
      ab.merge? c = some left ∧ a.merge? bc = some right ∧ left.Alike right ∧
      (∀ now, ∃ a', (start now).merge? a = some a' ∧ a'.Alike a) ∧
      (∀ now, a.merge? (start now) = some a) ∧
      ab.toTally.SameCounts ba.toTally ∧ (∀ key, ab.entry? key = ba.entry? key) ∧
      ab.passKeys = a.passKeys ++ b.passKeys.filter (· ∉ a.passKeys) ∧
      ab.started = a.started := by
  obtain ⟨haExact, -, _, haPlain⟩ := ha.sound
  obtain ⟨hbExact, -, _, hbPlain⟩ := hb.sound
  obtain ⟨hcExact, -, _, hcPlain⟩ := hc.sound
  obtain ⟨ab, hab, habCont⟩ := haExact.exists_merge b
  obtain ⟨bc, hbc, hbcCont⟩ := hbExact.exists_merge c
  obtain ⟨ba, hba, hbaCont⟩ := hbExact.exists_merge a
  obtain ⟨left, hleft, hleftCont⟩ := habCont.exact.exists_merge c
  obtain ⟨right, hright, hrightCont⟩ := haExact.exists_merge bc
  have hcounts : ab.toTally.SameCounts ba.toTally := by
    rw [habCont.toTally, hbaCont.toTally]
    exact haPlain.sameCounts_merge hbPlain
  refine ⟨ab, bc, ba, left, right, hab, hbc, hba, hleft, hright, ?_, fun now => ?_, fun _ => rfl,
    hcounts, fun key => ?_, ?_, habCont.started⟩
  · -- Both indices are exact, so it is enough to compare what has been counted.
    refine hleftCont.exact.alike hrightCont.exact ?_
    rw [hleftCont.toTally, habCont.toTally, hrightCont.toTally, hbcCont.toTally,
      haPlain.merge_assoc hbPlain hcPlain]
  · obtain ⟨a', ha', haCont⟩ := (exact_start now).exists_merge a
    refine ⟨a', ha', haCont.exact.alike haExact ?_⟩
    rw [haCont.toTally]
    exact haPlain.start_merge
  · rw [habCont.exact.entry?_eq, hbaCont.exact.entry?_eq, hcounts.entry?]
  · rw [habCont.toTally]
    exact haPlain.passKeys_merge hbPlain

/-- A tally in which two keys have been looked up, and a variant recorded under the first one. -/
def tarn (key key' : String) (kept : Bool) : Tally :=
  ((({} : Tally).slot key).2.slot key').2.record 0 "FOG" kept

theorem exists_reached_tarn (now : Nat) (key key' : String) (kept : Bool) :
    ∃ held t, Reached held t ∧ t.toTally = tarn key key' kept := by
  obtain ⟨hposition, hfirst⟩ := (exact_start now).continues_slot key
  obtain ⟨-, hsecond⟩ := hfirst.exact.continues_slot key'
  -- The first key is still held at the first position when the second one has been looked up.
  have hreached := ((Reached.start now).slot key).slot key'
  have hheld : (key, 0) ∈ ([] ++ [(key, ((start now).slot key).1)]) ++
      [(key', (((start now).slot key).2.slot key').1)] := by
    rw [hposition]
    exact List.mem_cons_self
  have hlt := lt_length_of_passKeys (hreached.sound.held key 0 hheld)
  obtain ⟨t, ht, hrecorded⟩ := hsecond.exact.exists_record hlt "FOG" kept
  refine ⟨_, t, hreached.record hheld ht, ?_⟩
  rw [hrecorded.toTally, hsecond.toTally, hfirst.toTally]
  rfl

/-- Three parts, each of which shares one key with each other one. -/
theorem merging_is_a_monoid_tarn :
    ∃ a b c left right : IndexedTally,
      a.toTally = tarn "A" "B" true ∧ b.toTally = tarn "C" "A" false ∧
      c.toTally = tarn "B" "C" true ∧ left.Alike right ∧
      (∃ ab, a.merge? b = some ab ∧ ab.passKeys = ["A", "B", "C"] ∧ ab.merge? c = some left) ∧
      ∃ bc, b.merge? c = some bc ∧ a.merge? bc = some right := by
  obtain ⟨as, a, ha, haPlain⟩ := exists_reached_tarn 0 "A" "B" true
  obtain ⟨bs, b, hb, hbPlain⟩ := exists_reached_tarn 1 "C" "A" false
  obtain ⟨cs, c, hc, hcPlain⟩ := exists_reached_tarn 2 "B" "C" true
  obtain ⟨ab, bc, -, left, right, hab, hbc, -, hleft, hright, halike, -, -, -, -, hkeys, -⟩ :=
    merging_is_a_monoid ha hb hc
  refine ⟨a, b, c, left, right, haPlain, hbPlain, hcPlain, halike, ⟨ab, hab, ?_, hleft⟩,
    bc, hbc, hright⟩
  rw [hkeys, haPlain, hbPlain]
  decide +kernel

end IndexedTally

end VariantStrip
