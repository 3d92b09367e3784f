/-
Variants are sets of keywords.

A variant knows its keywords as a set, and all that is derived from it depends on what tells
variants apart (`Variant.identity`) only:

* `Variant.same_ofKeywords_iff` — variants are the same if their lists of keywords have the same
  members, whatever their passes are called,
* `Variant.mem_globalKeywords_ofKeywords` — the global keywords are those that are not local,
* `Variant.hash_eq_of_same` — variants that are the same have the same hash, so that a set finds
  them under it,
* `Variant.size_setOf` — a set by hashes has as many members as there are variants without
  repetitions, and `Variant.length_distinct` counts these.

The main result is `variants_are_their_members`.
-/
import VariantStrip.Proofs.Reference
import VariantStrip.Variant.Hash

namespace VariantStrip

/-! ### Order -/

namespace StringSet

theorem compareLists_eq_iff (xs ys : List String) : compareLists xs ys = .eq ↔ xs = ys := by
  fun_induction compareLists xs ys with
  | case1 => simp
  | case2 => simp
  | case3 => simp
  | case4 x xs y ys hlt =>
    have hne : x ≠ y := String.ne_of_lt hlt
    simp [hne]
  | case5 x xs y ys hle hlt =>
    have hne : x ≠ y := (String.ne_of_lt hlt).symm
    simp [hne]
  | case6 x xs y ys hle hge ih =>
    have heq : x = y := String.le_antisymm (String.not_lt.mp hge) (String.not_lt.mp hle)
    simp [heq, ih]

/-- Sets are ordered as equals if they are equal. -/
theorem compare_eq_iff {s t : StringSet} : s.compare t = .eq ↔ s = t := by
  rw [compare, compareLists_eq_iff]
  exact toList_injective.eq_iff

end StringSet

theorem Host.isLocal_iff {h : Host} {shader : ShaderId} {k : String} :
    h.isLocal shader k = true ↔ ∃ s, h.shader? shader = some s ∧ k ∈ s.localKeywords := by
  rw [isLocal, Option.any_eq_true]
  simp only [StringSet.contains_iff]

namespace Variant

/-! ### The same variant -/

theorem same_eq_true_iff {v w : Variant} : v.same w = true ↔ v.identity = w.identity := beq_iff_eq

theorem equivalence_same : Equivalence fun v w : Variant => v.same w = true where
  refl _ := same_eq_true_iff.mpr rfl
  symm h := same_eq_true_iff.mpr (same_eq_true_iff.mp h).symm
  trans h h' := same_eq_true_iff.mpr ((same_eq_true_iff.mp h).trans (same_eq_true_iff.mp h'))

instance : EquivBEq Variant where
  rfl := equivalence_same.refl _
  symm := equivalence_same.symm
  trans := equivalence_same.trans

theorem same_ofKeywords_iff {h h' : Host} {shader shader' : ShaderId} {t t' : PassType}
    {ks ks' : List String} {name name' : String} :
    (ofKeywords h shader t ks name).same (ofKeywords h' shader' t' ks' name') = true ↔
      shader = shader' ∧ t = t' ∧ ∀ k, k ∈ ks ↔ k ∈ ks' := by
  rw [same_iff]
  exact and_congr_right fun _ => and_congr_right fun _ => StringSet.ofList_eq_ofList

theorem mem_globalKeywords_ofKeywords {h : Host} {shader : ShaderId} {t : PassType}
    {ks : List String} {name k : String} :
    k ∈ (ofKeywords h shader t ks name).globalKeywords ↔
      k ∈ ks ∧ ¬ ∃ s, h.shader? shader = some s ∧ k ∈ s.localKeywords := by
  rw [← Host.isLocal_iff, Bool.not_eq_true, ofKeywords, StringSet.mem_filter, StringSet.mem_ofList,
    Bool.not_eq_true']

/-! ### Hashes -/

theorem hash_eq_of_same (H : Hasher) {v w : Variant} (hsame : v.same w = true) :
    v.hash H = w.hash H := by
  obtain ⟨hshader, htype, hkeywords⟩ := same_iff.mp hsame
  rw [hash, hash, hashPieces, hashPieces, hshader, htype, hkeywords]

theorem lawfulHashable (H : Hasher) : @LawfulHashable Variant _ H.hashable :=
  letI := H.hashable
  ⟨fun _ _ hsame => hash_eq_of_same H hsame⟩

/-! ### Variants without repetitions -/

theorem any_distinct (vs : List Variant) (v : Variant) :
    (distinct vs).any v.same = vs.any v.same := by
  rw [Bool.eq_iff_iff, List.any_eq_true, List.any_eq_true]
  constructor
  · rintro ⟨w, hw, hsame⟩
    exact ⟨w, mem_of_mem_distinct hw, hsame⟩
  · rintro ⟨w, hw, hsame⟩
    obtain ⟨u, hu, hsame'⟩ := exists_mem_distinct hw
    exact ⟨u, hu, equivalence_same.trans hsame hsame'⟩

/-- There are as many variants without repetitions as there are identities. -/
theorem length_distinct (vs : List Variant) :
    (distinct vs).length = (vs.map identity).toFinset.card := by
  have hnodup : ((distinct vs).map identity).Nodup := by
    rw [distinct_eq]
    exact nodup_map_firstsBy identity vs
  have hsame : ((distinct vs).map identity).toFinset = (vs.map identity).toFinset := by
    ext k
    rw [List.mem_toFinset, List.mem_toFinset, distinct_eq, mem_map_firstsBy]
  rw [← hsame, List.toFinset_card_of_nodup hnodup, List.length_map]

theorem setOf_concat (H : Hasher) (vs : List Variant) (v : Variant) :
    H.setOf (vs ++ [v]) = (H.setOf vs).insert v := List.foldl_append

/-- A set by hashes holds what is the same as one of its variants. -/
theorem mem_setOf {H : Hasher} {vs : List Variant} {v : Variant} :
    v ∈ H.setOf vs ↔ ∃ w ∈ vs, v.same w = true := by
  have := lawfulHashable H
  induction vs using List.reverseRecOn with
  | nil => exact iff_of_false Std.HashSet.not_mem_empty (by simp)
  | append_singleton vs w ih =>
    have hw : w == v ↔ v.same w = true := by rw [BEq.comm]; rfl
    rw [setOf_concat, Std.HashSet.mem_insert, hw, or_comm]
    refine (or_congr_left ih).trans ?_
    simp only [List.mem_append, List.mem_singleton, or_and_right, exists_or, exists_eq_left]

/-- **A set by hashes** has one member for each of the variants without repetitions. -/
theorem size_setOf (H : Hasher) (vs : List Variant) : (H.setOf vs).size = (distinct vs).length := by
  have := lawfulHashable H
  induction vs using List.reverseRecOn with
  | nil => exact Std.HashSet.size_empty
  | append_singleton vs v ih =>
    have hmem : v ∈ H.setOf vs ↔ (distinct vs).any v.same = true := by
      rw [any_distinct, List.any_eq_true]
      exact mem_setOf
    rw [setOf_concat, Std.HashSet.size_insert, distinct_concat, ih]
    by_cases hv : v ∈ H.setOf vs
    · rw [if_pos hv, if_pos (hmem.mp hv)]
    · rw [if_neg hv, if_neg (mt hmem.mpr hv), List.length_append, List.length_singleton]

end Variant

/-! ### Variants of a host -/

/-- What a variant is made from. -/
structure VariantData where
  shader : ShaderId
  passType : PassType
  passName : String := ""
  keywords : List String

namespace VariantData

/-- The variant of a host. -/
def variant (h : Host) (x : VariantData) : Variant :=
  .ofKeywords h x.shader x.passType x.keywords x.passName

/-- The shader, the type of the pass and the members of the list of keywords. -/
def triple (x : VariantData) : ShaderId × PassType × Finset String :=
  (x.shader, x.passType, x.keywords.toFinset)

theorem card_identities (h : Host) (xs : List VariantData) :
    ((xs.map (variant h)).map Variant.identity).toFinset.card = (xs.map triple).toFinset.card := by
  -- An identity has its keywords as a set, and a triple has them as a finite set.
  have htriple (x : VariantData) :
      x.triple = Prod.map id (Prod.map id StringSet.toFinset) (x.variant h).identity := by
    rw [triple, ← StringSet.toFinset_ofList]
    rfl
  have hinjective : Function.Injective
      (Prod.map id (Prod.map id StringSet.toFinset) :
        ShaderId × PassType × StringSet → ShaderId × PassType × Finset String) :=
    Function.injective_id.prodMap (Function.injective_id.prodMap StringSet.toFinset_injective)
  rw [← Finset.card_image_of_injective _ hinjective]
  congr 1
  ext t
  simp only [Finset.mem_image, List.mem_toFinset, List.mem_map, htriple, exists_exists_and_eq_and]

end VariantData

/-- **Variants are their members.**  For any host,

* variants are the same if and only if shader, type of pass and the members of the lists of keywords
  are, which is an equivalence,
* the global keywords of a variant are the members that are not local to its shader,
* variants that are the same have equal sets of keywords and of global keywords, which are shown and
  ordered as equals, and equal hashes, however these are computed,
* a set by hashes has as many members as there are triples of a shader, a type of pass and a set of
  members. -/
theorem variants_are_their_members (h : Host) :
    (∀ x y : VariantData, (x.variant h).same (y.variant h) = true ↔
        x.shader = y.shader ∧ x.passType = y.passType ∧ ∀ k, k ∈ x.keywords ↔ k ∈ y.keywords) ∧
      (Equivalence fun v w : Variant => v.same w = true) ∧
      (∀ (x : VariantData) (k : String), k ∈ (x.variant h).globalKeywords ↔
        k ∈ x.keywords ∧ ¬ ∃ s, h.shader? x.shader = some s ∧ k ∈ s.localKeywords) ∧
      (∀ x y : VariantData, (x.variant h).same (y.variant h) = true →
        (x.variant h).globalKeywords = (y.variant h).globalKeywords ∧
        (x.variant h).keywords.compare (y.variant h).keywords = .eq ∧
        (x.variant h).keywords.display = (y.variant h).keywords.display ∧
        (x.variant h).globalKeywords.display = (y.variant h).globalKeywords.display ∧
        ∀ H : Hasher, (x.variant h).hash H = (y.variant h).hash H) ∧
      ∀ (H : Hasher) (xs : List VariantData),
        (H.setOf (xs.map (·.variant h))).size = (xs.map (·.triple)).toFinset.card ∧
        (Variant.distinct (xs.map (·.variant h))).length = (xs.map (·.triple)).toFinset.card := by
  refine ⟨fun x y => Variant.same_ofKeywords_iff, Variant.equivalence_same,
    fun x k => Variant.mem_globalKeywords_ofKeywords, fun x y hsame => ?_, fun H xs => ?_⟩
  · have hglobal : (x.variant h).globalKeywords = (y.variant h).globalKeywords :=
      Variant.OfHost.globalKeywords_eq rfl rfl hsame
    have hkeywords : (x.variant h).keywords = (y.variant h).keywords :=
      (Variant.same_iff.mp hsame).2.2
    exact ⟨hglobal, StringSet.compare_eq_iff.mpr hkeywords, by rw [hkeywords], by rw [hglobal],
      fun H => Variant.hash_eq_of_same H hsame⟩
  · have hdistinct : (Variant.distinct (xs.map (·.variant h))).length =
        (xs.map (·.triple)).toFinset.card := by
      rw [Variant.length_distinct]
      exact VariantData.card_identities h xs
    exact ⟨(Variant.size_setOf H _).trans hdistinct, hdistinct⟩

/-- A host with one shader, which has a keyword of its own. -/
def creekHost : Host := .ofList [{ name := "Creek", localKeywords := .ofList ["_WET"] }]

/-- A variant twice, with its keywords in another order and under another name of its pass; one with
a keyword in another case; and one of a shader that the host does not know. -/
def creekData : List VariantData :=
  [⟨⟨0⟩, .normal, "P", ["FOG", "_WET", "FOG"]⟩, ⟨⟨0⟩, .normal, "Q", ["_WET", "FOG"]⟩,
    ⟨⟨0⟩, .normal, "P", ["Fog", "_WET"]⟩, ⟨⟨1⟩, .normal, "P", ["FOG", "_WET"]⟩]

/-- Hashes by the number of pieces, which are the same for all four variants. -/
theorem variants_are_their_members_creek :
    let x : VariantData := ⟨⟨0⟩, .normal, "P", ["FOG", "_WET", "FOG"]⟩
    let y : VariantData := ⟨⟨0⟩, .normal, "Q", ["_WET", "FOG"]⟩
    let H : Hasher := ⟨Nat, 0, fun n _ => n + 1, UInt64.ofNat⟩
    (x.variant creekHost).same (y.variant creekHost) = true ∧
      (x.variant creekHost).hash H = (y.variant creekHost).hash H ∧
      (y.variant creekHost).globalKeywords = (x.variant creekHost).globalKeywords ∧
      (H.setOf (creekData.map (·.variant creekHost))).size = 3 := by
  intro x y H
  obtain ⟨hsame, -, -, hderived, hsize⟩ := variants_are_their_members creekHost
  have hxy : (x.variant creekHost).same (y.variant creekHost) = true :=
    (hsame x y).mpr ⟨rfl, rfl, by simp [x, y, or_comm]⟩
  obtain ⟨hglobal, -, -, -, hhash⟩ := hderived x y hxy
  exact ⟨hxy, hhash H, hglobal.symm, (hsize H creekData).1.trans (by decide +kernel)⟩

end VariantStrip
