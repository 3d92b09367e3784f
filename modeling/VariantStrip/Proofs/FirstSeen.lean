/-
Elements of a list in the order in which they were first seen.

`List.eraseDups` keeps the first of equal elements, and `firstsBy` the first of those that agree in
a key.  The lemmas go through a list from its end, as tallies and tables grow.  What a list keeps
does not depend on repetitions in its parts: `firstsBy_firstsBy_append` and
`firstsBy_append_firstsBy`.  It is kept as it was first seen (`mem_firstsBy_iff`), in the order of
first places (`pairwise_map_firstsBy`).
-/
import Mathlib.Data.List.Induction
import Mathlib.Data.List.Nodup

namespace VariantStrip

section

variable {α β : Type} [DecidableEq α]

theorem eraseDups_concat (xs : List α) (x : α) :
    (xs ++ [x]).eraseDups = if x ∈ xs then xs.eraseDups else xs.eraseDups ++ [x] := by
  rw [List.eraseDups_append]
  by_cases hx : x ∈ xs
  · simp [List.removeAll, hx]
  · simp [List.removeAll, hx, List.eraseDups_cons]

theorem nodup_eraseDups (xs : List α) : xs.eraseDups.Nodup := by
  induction xs using List.reverseRecOn with
  | nil => simp
  | append_singleton xs x ih =>
    rw [eraseDups_concat]
    by_cases hx : x ∈ xs
    · rw [if_pos hx]
      exact ih
    · rw [if_neg hx, ← List.concat_eq_append]
      exact ih.concat fun h => hx (List.mem_eraseDups.mp h)

/-- An element has its first place in a list before another one. -/
def SeenBefore (xs : List α) (x y : α) : Prop := xs.idxOf x < xs.idxOf y

theorem pairwise_eraseDups (xs : List α) : xs.eraseDups.Pairwise (SeenBefore xs) := by
  induction xs using List.reverseRecOn with
  | nil => simp
  | append_singleton xs x ih =>
    -- The places of what was there stay.
    have hplace {y : α} (hy : y ∈ xs.eraseDups) : (xs ++ [x]).idxOf y = xs.idxOf y :=
      List.idxOf_append_of_mem (List.mem_eraseDups.mp hy)
    have hold : xs.eraseDups.Pairwise (SeenBefore (xs ++ [x])) := by
      refine ih.imp_of_mem fun hy hz hyz => ?_
      rw [SeenBefore, hplace hy, hplace hz]
      exact hyz
    rw [eraseDups_concat]
    by_cases hx : x ∈ xs
    · rw [if_pos hx]
      exact hold
    · rw [if_neg hx, List.pairwise_append]
      refine ⟨hold, List.pairwise_singleton _ _, fun y hy z hz => ?_⟩
      rw [List.mem_singleton.mp hz, SeenBefore, hplace hy, List.idxOf_append, if_neg hx]
      have hlt := List.idxOf_lt_length_iff.mpr (List.mem_eraseDups.mp hy)
      omega

/-- Looking for the first element with a key is looking for the key among the keys. -/
theorem findIdx?_key (f : β → α) (xs : List β) (key : α) :
    (xs.findIdx? fun x => f x == key) =
      if key ∈ xs.map f then some ((xs.map f).idxOf key) else none := by
  induction xs with
  | nil => rfl
  | cons x xs ih =>
    rw [List.findIdx?_cons, ih, List.map_cons, List.idxOf_cons]
    by_cases hx : f x = key
    · simp [hx]
    · have hx' : (f x == key) = false := by simpa using hx
      by_cases hmem : key ∈ xs.map f
      · simp [hx', Ne.symm hx, hmem]
      · simp [hx', Ne.symm hx, hmem]

end

/-! ### The first elements with their keys -/

section

variable {α β κ : Type} [DecidableEq κ] (key : α → κ)

/-- The elements whose keys have not been seen before. -/
def firstsBy (xs : List α) : List α :=
  xs.foldl (fun seen x => if key x ∈ seen.map key then seen else seen ++ [x]) []

/-- No key is lost. -/
theorem mem_map_firstsBy {xs : List α} {k : κ} :
    k ∈ (firstsBy key xs).map key ↔ k ∈ xs.map key := by
  induction xs using List.reverseRecOn with
  | nil => rfl
  | append_singleton xs x ih =>
    rw [firstsBy, List.foldl_append, ← firstsBy, List.foldl_cons, List.foldl_nil]
    by_cases hx : key x ∈ (firstsBy key xs).map key
    · rw [if_pos hx, ih, List.map_append, List.mem_append]
      refine ⟨Or.inl, fun hk => hk.elim id fun hk => ?_⟩
      rw [← ih, List.mem_singleton.mp hk]
      exact hx
    · rw [if_neg hx]
      simp only [List.map_append, List.mem_append, ih]

theorem firstsBy_concat (xs : List α) (x : α) :
    firstsBy key (xs ++ [x]) =
      if key x ∈ xs.map key then firstsBy key xs else firstsBy key xs ++ [x] := by
  rw [firstsBy, List.foldl_append, ← firstsBy, List.foldl_cons, List.foldl_nil]
  simp only [mem_map_firstsBy]

theorem mem_of_mem_firstsBy {xs : List α} {x : α} (hx : x ∈ firstsBy key xs) : x ∈ xs := by
  induction xs using List.reverseRecOn with
  | nil => exact hx
  | append_singleton xs y ih =>
    rw [firstsBy_concat] at hx
    by_cases hy : key y ∈ xs.map key
    · rw [if_pos hy] at hx
      exact List.mem_append_left _ (ih hx)
    · rw [if_neg hy] at hx
      exact (List.mem_append.mp hx).elim (fun h => List.mem_append_left _ (ih h))
        (fun h => List.mem_append_right _ h)

/-- Of the elements with a key the first is kept. -/
theorem find?_of_mem_firstsBy {xs : List α} {x : α} (hx : x ∈ firstsBy key xs) :
    xs.find? (fun y => key y = key x) = some x := by
  induction xs using List.reverseRecOn with
  | nil => cases hx
  | append_singleton xs y ih =>
    rw [firstsBy_concat] at hx
    rw [List.find?_append]
    by_cases hy : key y ∈ xs.map key
    · rw [if_pos hy] at hx
      rw [ih hx, Option.some_or]
    · rw [if_neg hy] at hx
      rcases List.mem_append.mp hx with hx | hx
      · rw [ih hx, Option.some_or]
      · rw [List.mem_singleton.mp hx]
        have hnone : xs.find? (fun z => key z = key y) = none := by
          rw [List.find?_eq_none]
          intro z hz hzy
          exact hy (of_decide_eq_true hzy ▸ List.mem_map_of_mem hz)
        rw [hnone, Option.none_or, List.find?_singleton, if_pos (decide_eq_true rfl)]

/-- What is kept is what a search for its key finds. -/
theorem mem_firstsBy_iff {xs : List α} {x : α} :
    x ∈ firstsBy key xs ↔ xs.find? (fun y => key y = key x) = some x := by
  refine ⟨find?_of_mem_firstsBy key, fun hx => ?_⟩
  have hkey : key x ∈ (firstsBy key xs).map key :=
    (mem_map_firstsBy key).mpr (List.mem_map_of_mem (List.mem_of_find?_eq_some hx))
  obtain ⟨y, hy, hyx⟩ := List.mem_map.mp hkey
  have hfound := find?_of_mem_firstsBy key hy
  rw [hyx, hx] at hfound
  rw [Option.some.inj hfound]
  exact hy

/-- A part that takes all elements with a key or none of them keeps the same ones. -/
theorem firstsBy_filter {p : α → Bool} (hp : ∀ x y, key x = key y → p x = p y) (xs : List α) :
    firstsBy key (xs.filter p) = (firstsBy key xs).filter p := by
  induction xs using List.reverseRecOn with
  | nil => rfl
  | append_singleton xs x ih =>
    rw [List.filter_append, firstsBy_concat]
    by_cases hx : p x = true
    · have hseen : key x ∈ (xs.filter p).map key ↔ key x ∈ xs.map key := by
        simp only [List.mem_map, List.mem_filter]
        constructor
        · rintro ⟨y, ⟨hy, -⟩, hyx⟩
          exact ⟨y, hy, hyx⟩
        · rintro ⟨y, hy, hyx⟩
          exact ⟨y, ⟨hy, (hp y x hyx).trans hx⟩, hyx⟩
      rw [List.filter_cons_of_pos hx, List.filter_nil, firstsBy_concat, ih]
      simp only [hseen]
      by_cases hmem : key x ∈ xs.map key
      · rw [if_pos hmem, if_pos hmem]
      · rw [if_neg hmem, if_neg hmem, List.filter_append, List.filter_cons_of_pos hx,
          List.filter_nil]
    · rw [List.filter_cons_of_neg hx, List.filter_nil, List.append_nil, ih]
      by_cases hmem : key x ∈ xs.map key
      · rw [if_pos hmem]
      · rw [if_neg hmem, List.filter_append, List.filter_cons_of_neg hx, List.filter_nil,
          List.append_nil]

/-- Repetitions within what is appended do not matter. -/
theorem firstsBy_append_firstsBy (xs ys : List α) :
    firstsBy key (xs ++ firstsBy key ys) = firstsBy key (xs ++ ys) := by
  induction ys using List.reverseRecOn with
  | nil => rfl
  | append_singleton ys y ih =>
    rw [firstsBy_concat, ← List.append_assoc, firstsBy_concat]
    by_cases hy : key y ∈ ys.map key
    · rw [if_pos hy, if_pos (by simp only [List.map_append, List.mem_append, hy, or_true]), ih]
    · rw [if_neg hy, ← List.append_assoc, firstsBy_concat, ih]
      simp only [List.map_append, List.mem_append, mem_map_firstsBy]

theorem firstsBy_firstsBy (xs : List α) : firstsBy key (firstsBy key xs) = firstsBy key xs :=
  firstsBy_append_firstsBy key [] xs

/-- Repetitions within what stands in front do not matter. -/
theorem firstsBy_firstsBy_append (xs ys : List α) :
    firstsBy key (firstsBy key xs ++ ys) = firstsBy key (xs ++ ys) := by
  induction ys using List.reverseRecOn with
  | nil => rw [List.append_nil, List.append_nil, firstsBy_firstsBy]
  | append_singleton ys y ih =>
    rw [← List.append_assoc, firstsBy_concat, ← List.append_assoc, firstsBy_concat, ih]
    simp only [List.map_append, List.mem_append, mem_map_firstsBy]

/-- Keys that tell the same elements apart. -/
theorem firstsBy_congr {κ' : Type} [DecidableEq κ'] {key' : α → κ'}
    (hkey : ∀ x y, key x = key y ↔ key' x = key' y) (xs : List α) :
    firstsBy key xs = firstsBy key' xs := by
  induction xs using List.reverseRecOn with
  | nil => rfl
  | append_singleton xs x ih =>
    have hmem : key x ∈ xs.map key ↔ key' x ∈ xs.map key' := by
      simp only [List.mem_map, hkey]
    rw [firstsBy_concat, firstsBy_concat, ih]
    simp only [hmem]

theorem firstsBy_map (f : β → α) (xs : List β) :
    firstsBy key (xs.map f) = (firstsBy (fun x => key (f x)) xs).map f := by
  induction xs using List.reverseRecOn with
  | nil => rfl
  | append_singleton xs x ih =>
    rw [List.map_append, List.map_singleton, firstsBy_concat, firstsBy_concat, List.map_map, ih]
    by_cases hx : key (f x) ∈ xs.map fun x => key (f x)
    · rw [if_pos hx]
      exact if_pos hx
    · rw [if_neg hx, List.map_append, List.map_singleton]
      exact if_neg hx

end

section

variable {α : Type} [DecidableEq α]

theorem firstsBy_id (xs : List α) : firstsBy id xs = xs.eraseDups := by
  induction xs using List.reverseRecOn with
  | nil => rfl
  | append_singleton xs x ih => rw [firstsBy_concat, eraseDups_concat, ih, List.map_id, id]

theorem map_firstsBy {β : Type} (key : β → α) (xs : List β) :
    (firstsBy key xs).map key = (xs.map key).eraseDups := by
  rw [← firstsBy_id, firstsBy_map]
  rfl

theorem nodup_map_firstsBy {β : Type} (key : β → α) (xs : List β) :
    ((firstsBy key xs).map key).Nodup := by
  rw [map_firstsBy]
  exact nodup_eraseDups _

/-- Elements are kept in the order of the first places of their keys. -/
theorem pairwise_map_firstsBy {β : Type} (key : β → α) (xs : List β) :
    ((firstsBy key xs).map key).Pairwise (SeenBefore (xs.map key)) := by
  rw [map_firstsBy]
  exact pairwise_eraseDups _

/-- Without repetitions nothing is erased. -/
theorem eraseDups_of_nodup {xs : List α} (hxs : xs.Nodup) : xs.eraseDups = xs := by
  induction xs with
  | nil => rfl
  | cons x xs ih =>
    rw [List.nodup_cons] at hxs
    have hrest : xs.filter (fun y => !y == x) = xs := by
      rw [List.filter_eq_self]
      intro y hy
      have hyx : y ≠ x := fun h => hxs.1 (h ▸ hy)
      rw [beq_eq_false_iff_ne.mpr hyx, Bool.not_false]
    rw [List.eraseDups_cons, hrest, ih hxs.2]

/-- Of two lists without repetitions the second adds what the first has not. -/
theorem eraseDups_append_of_nodup {xs ys : List α} (hxs : xs.Nodup) (hys : ys.Nodup) :
    (xs ++ ys).eraseDups = xs ++ ys.filter (· ∉ xs) := by
  have hnew : ys.removeAll xs = ys.filter (· ∉ xs) :=
    List.filter_congr fun y _ => by simp
  rw [List.eraseDups_append, eraseDups_of_nodup hxs, hnew, eraseDups_of_nodup (hys.filter _)]

theorem eraseDups_append_eraseDups (xs ys : List α) :
    (xs ++ ys.eraseDups).eraseDups = (xs ++ ys).eraseDups := by
  rw [← firstsBy_id, ← firstsBy_id, ← firstsBy_id, firstsBy_append_firstsBy]

theorem eraseDups_eraseDups_append (xs ys : List α) :
    (xs.eraseDups ++ ys).eraseDups = (xs ++ ys).eraseDups := by
  rw [← firstsBy_id, ← firstsBy_id, ← firstsBy_id, firstsBy_firstsBy_append]

end

end VariantStrip
