/-
Finite sets of strings, kept as ascending lists.

`StringSet.ext_of_mem`: two sets with the same members are equal, so equality of sets is equality
of their lists. Strings are ordered by code points.
-/

namespace VariantStrip

/-- A set of strings: its members in ascending order. -/
structure StringSet where
  toList : List String
  sorted : toList.Pairwise (· < ·)
  deriving DecidableEq

namespace StringSet

instance : Membership String StringSet := ⟨fun s k => k ∈ s.toList⟩

theorem mem_def {k : String} {s : StringSet} : k ∈ s ↔ k ∈ s.toList := Iff.rfl

instance (k : String) (s : StringSet) : Decidable (k ∈ s) :=
  inferInstanceAs (Decidable (k ∈ s.toList))

instance : Hashable StringSet := ⟨fun s => hash s.toList⟩

/-- The set without members. -/
def empty : StringSet := ⟨[], .nil⟩

instance : Inhabited StringSet := ⟨empty⟩

/-- Puts a string into its place in an ascending list, unless it is there. -/
def insertSorted (k : String) : List String → List String
  | [] => [k]
  | x :: xs => if k < x then k :: x :: xs else if k = x then x :: xs else x :: insertSorted k xs

theorem mem_insertSorted {k y : String} (xs : List String) :
    y ∈ insertSorted k xs ↔ y = k ∨ y ∈ xs := by
  induction xs with
  | nil => simp [insertSorted]
  | cons x xs ih =>
    unfold insertSorted
    split
    · simp
    · split
      · next h => simp [h]
      · simp only [List.mem_cons, ih]
        grind

theorem pairwise_insertSorted {k : String} {xs : List String} (h : xs.Pairwise (· < ·)) :
    (insertSorted k xs).Pairwise (· < ·) := by
  induction xs with
  | nil => simp [insertSorted]
  | cons x xs ih =>
    rw [List.pairwise_cons] at h
    unfold insertSorted
    split
    · next hk =>
      refine List.pairwise_cons.mpr ⟨fun y hy => ?_, List.pairwise_cons.mpr h⟩
      rcases List.mem_cons.mp hy with rfl | hy
      · exact hk
      · exact String.lt_trans hk (h.1 y hy)
    · next hk =>
      split
      · exact List.pairwise_cons.mpr h
      · next hne =>
        refine List.pairwise_cons.mpr ⟨fun y hy => ?_, ih h.2⟩
        rcases (mem_insertSorted xs).mp hy with rfl | hy
        · rcases String.le_total y x with hle | hle
          · exact absurd (String.le_antisymm hle (String.not_lt.mp hk)) hne
          · exact String.not_le.mp fun hle' => hne (String.le_antisymm hle' hle)
        · exact h.1 y hy

/-- Adds a member. -/
def insert (s : StringSet) (k : String) : StringSet :=
  ⟨insertSorted k s.toList, pairwise_insertSorted s.sorted⟩

@[simp] theorem mem_insert {s : StringSet} {k y : String} : y ∈ s.insert k ↔ y = k ∨ y ∈ s :=
  mem_insertSorted s.toList

/-- The set of the strings of a list. -/
def ofList (ks : List String) : StringSet := ks.foldl insert empty

theorem mem_foldl_insert (ks : List String) (s : StringSet) (y : String) :
    y ∈ ks.foldl insert s ↔ y ∈ s ∨ y ∈ ks := by
  induction ks generalizing s with
  | nil => simp
  | cons k ks ih =>
    simp only [List.foldl_cons, ih, mem_insert, List.mem_cons]
    grind

@[simp] theorem mem_ofList {ks : List String} {y : String} : y ∈ ofList ks ↔ y ∈ ks := by
  rw [ofList, mem_foldl_insert]
  simp [mem_def, empty]

/-- Whether a string is a member. -/
def contains (s : StringSet) (k : String) : Bool := s.toList.contains k

/-- The number of members. -/
def size (s : StringSet) : Nat := s.toList.length

/-- Whether there are no members. -/
def isEmpty (s : StringSet) : Bool := s.toList.isEmpty

/-- The members that pass a test. -/
def filter (s : StringSet) (keep : String → Bool) : StringSet :=
  ⟨s.toList.filter keep, s.sorted.filter _⟩

@[simp] theorem mem_filter {s : StringSet} {keep : String → Bool} {y : String} :
    y ∈ s.filter keep ↔ y ∈ s ∧ keep y = true := List.mem_filter

/-- The members of both sets. -/
def union (s t : StringSet) : StringSet := t.toList.foldl insert s

@[simp] theorem mem_union {s t : StringSet} {y : String} : y ∈ s.union t ↔ y ∈ s ∨ y ∈ t :=
  mem_foldl_insert t.toList s y

/-- Lexicographic order of two ascending lists. -/
def compareLists : List String → List String → Ordering
  | [], [] => .eq
  | [], _ :: _ => .lt
  | _ :: _, [] => .gt
  | x :: xs, y :: ys => if x < y then .lt else if y < x then .gt else compareLists xs ys

/-- Sets are ordered as their lists of members. -/
def compare (s t : StringSet) : Ordering := compareLists s.toList t.toList

/-- Shows a set: its members with single spaces between them. -/
def display (s : StringSet) : String := " ".intercalate s.toList

theorem eq_of_pairwise_of_mem : ∀ {xs ys : List String}, xs.Pairwise (· < ·) →
    ys.Pairwise (· < ·) → (∀ k, k ∈ xs ↔ k ∈ ys) → xs = ys
  | [], [], _, _, _ => rfl
  | [], y :: _, _, _, h => absurd ((h y).mpr (by simp)) (by simp)
  | x :: _, [], _, _, h => absurd ((h x).mp (by simp)) (by simp)
  | x :: xs, y :: ys, hx, hy, h => by
    rw [List.pairwise_cons] at hx hy
    have hxy : x = y := by
      rcases List.mem_cons.mp ((h x).mp (by simp)) with hx' | hx'
      · exact hx'
      rcases List.mem_cons.mp ((h y).mpr (by simp)) with hy' | hy'
      · exact hy'.symm
      · exact absurd (hx.1 y hy') (String.lt_asymm (hy.1 x hx'))
    subst hxy
    congr 1
    refine eq_of_pairwise_of_mem hx.2 hy.2 fun k => ?_
    have hk := h k
    simp only [List.mem_cons] at hk
    have h1 : k ∈ xs → k ≠ x := fun hm he => String.lt_irrefl _ (he ▸ hx.1 k hm)
    have h2 : k ∈ ys → k ≠ x := fun hm he => String.lt_irrefl _ (he ▸ hy.1 k hm)
    grind

/-- Sets with the same members are equal. -/
theorem ext_of_mem {s t : StringSet} (h : ∀ k, k ∈ s ↔ k ∈ t) : s = t := by
  cases s with
  | mk xs hx =>
    cases t with
    | mk ys hy =>
      have := eq_of_pairwise_of_mem hx hy h
      subst this
      rfl

end StringSet

end VariantStrip
