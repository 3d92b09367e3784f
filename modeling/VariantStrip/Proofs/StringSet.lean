/-
Sets of strings as the lists that they are made from.

A set made from a list only knows the members of the list.  So two lists make the same set if they
have the same members (`StringSet.ofList_eq_ofList`), joining two sets is appending their lists
(`StringSet.union_ofList`), and adding a string is joining the set of one
(`StringSet.union_singleton`).  No string is kept twice, so a set is no larger than the list
(`StringSet.size_ofList_le`), and its size is the number of its members (`StringSet.card_toFinset`).
-/
import Mathlib.Data.Finset.Card
import Mathlib.Data.List.Perm.Basic
import VariantStrip.StringSet

namespace VariantStrip.StringSet

@[simp] theorem not_mem_empty (k : String) : k ∉ empty := by
  simp [mem_def, empty]

@[simp] theorem contains_iff {s : StringSet} {k : String} : s.contains k = true ↔ k ∈ s := by
  simp [contains, mem_def]

theorem ofList_eq_ofList {xs ys : List String} :
    ofList xs = ofList ys ↔ ∀ k, k ∈ xs ↔ k ∈ ys := by
  constructor
  · intro h k
    rw [← mem_ofList, h, mem_ofList]
  · intro h
    refine ext_of_mem fun k => ?_
    rw [mem_ofList, mem_ofList, h k]

theorem union_ofList (xs ys : List String) : (ofList xs).union (ofList ys) = ofList (xs ++ ys) := by
  refine ext_of_mem fun y => ?_
  simp only [mem_union, mem_ofList, List.mem_append]

theorem union_nil (s : StringSet) : s.union (.ofList []) = s := by
  refine ext_of_mem fun y => ?_
  simp only [mem_union, mem_ofList, List.not_mem_nil, or_false]

theorem union_singleton (s : StringSet) (k : String) : s.union (.ofList [k]) = s.insert k := by
  refine ext_of_mem fun y => ?_
  simp only [mem_union, mem_ofList, mem_insert, List.mem_singleton]
  exact or_comm

/-! ### Lists of members -/

theorem toList_injective : Function.Injective toList := by
  intro s t h
  refine ext_of_mem fun k => ?_
  rw [mem_def, mem_def, h]

theorem nodup_toList (s : StringSet) : s.toList.Nodup :=
  s.sorted.imp fun h => String.ne_of_lt h

theorem size_ofList_le (xs : List String) : (ofList xs).size ≤ xs.length := by
  have hsub : (ofList xs).toList ⊆ xs := fun _ h => mem_ofList.mp h
  exact (List.subperm_of_subset (nodup_toList _) hsub).length_le

theorem size_pos_of_mem {s : StringSet} {k : String} (h : k ∈ s) : 0 < s.size :=
  List.length_pos_of_mem h

/-! ### Finite sets -/

/-- The members as a finite set. -/
def toFinset (s : StringSet) : Finset String := s.toList.toFinset

theorem toFinset_injective : Function.Injective toFinset := by
  intro s t h
  refine ext_of_mem fun k => ?_
  have hk : k ∈ s.toFinset ↔ k ∈ t.toFinset := by rw [h]
  rwa [toFinset, toFinset, List.mem_toFinset, List.mem_toFinset] at hk

theorem toFinset_ofList (ks : List String) : (ofList ks).toFinset = ks.toFinset := by
  ext k
  rw [toFinset, List.mem_toFinset, List.mem_toFinset]
  exact mem_ofList

theorem card_toFinset (s : StringSet) : s.toFinset.card = s.size :=
  List.toFinset_card_of_nodup (nodup_toList s)

end VariantStrip.StringSet
