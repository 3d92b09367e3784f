/-
The index of known variants answers like a search through what was inserted.

An index is made from catalogs, and variants may be inserted into it afterwards (`reached`).  What
it answers is compared with the list of all variants that it was given, repetitions included
(`inserted`, `AnswersFrom`).

* `Indexes.variantsOf_eq` — the variants of a shader are the first ones of those that are the same,
  so the laws of `firstsBy` apply: they are distinct, complete and in the order of first places,
* `Indexes.contains_iff_inserted` — a variant is known if the same one was inserted,
* `Indexes.answersFrom` — and keywords are found as the listed variants have them.  Here all
  variants have to come from one host: the same variant with other global keywords would be dropped,
  and with it what it could be found by,
* `find_eq_matched_iff_given`, `find_eq_shaderAbsent_iff_given` — what is found depends on the sets
  of keywords that the shader was given (`Given`).

The main result is `reference_answers_from_inserted`.
-/
import VariantStrip.Proofs.Reference

namespace VariantStrip

/-- Answers are told apart by what is matched and what is absent. -/
theorem ReferenceMatch.eq_of_iff {a b : ReferenceMatch} (hmatched : a = matched ↔ b = matched)
    (habsent : a = shaderAbsent ↔ b = shaderAbsent) : a = b := by
  cases a with
  | matched => exact (hmatched.mp rfl).symm
  | shaderAbsent => exact (habsent.mp rfl).symm
  | notMatched =>
    cases b with
    | notMatched => rfl
    | matched => exact hmatched.mpr rfl
    | shaderAbsent => exact habsent.mpr rfl

namespace ReferenceIndex

/-- The index that some catalogs lead to, and further variants after them. -/
def reached (h : Host) (catalogs : List Catalog) (vs : List Variant) : ReferenceIndex :=
  vs.foldl (fun x v => (x.insert v).2) (ofCatalogs h catalogs).value

/-- All variants that such an index was given, in order. -/
def inserted (h : Host) (catalogs : List Catalog) (vs : List Variant) : List Variant :=
  catalogVariants h catalogs ++ vs

theorem indexes_reached (h : Host) (catalogs : List Catalog) (vs : List Variant) :
    Indexes (reached h catalogs vs) (inserted h catalogs vs) :=
  (indexes_ofCatalogs h catalogs).foldl_insert vs

theorem ofHost_of_mem_inserted {h : Host} {catalogs : List Catalog} {vs : List Variant}
    (hvs : ∀ v ∈ vs, v.OfHost h) : ∀ v ∈ inserted h catalogs vs, v.OfHost h := by
  intro v hv
  rcases List.mem_append.mp hv with hv | hv
  · exact ofHost_of_mem_catalogVariants hv
  · exact hvs v hv

/-! ### The answers of an index -/

theorem insert_fst_eq_false_iff (x : ReferenceIndex) (v : Variant) :
    (x.insert v).1 = false ↔ x.contains v = true := by
  rw [insert]
  by_cases hv : x.contains v = true
  · rw [if_pos hv]
    exact iff_of_true rfl hv
  · rw [if_neg hv]
    exact iff_of_false Bool.false_ne_true.symm hv

/-- The answers of an index are those of a plain search through the variants of a host that were
inserted. -/
structure AnswersFrom (h : Host) (inserted : List Variant) (x : ReferenceIndex) : Prop where
  /-- No two listed variants are the same. -/
  distinct : ∀ s, (x.variantsOf s).Pairwise fun v w => v.same w = false
  /-- The first one of the variants that are the same is listed. -/
  listed : ∀ s v, v ∈ x.variantsOf s ↔ v.shader = s ∧ inserted.find? v.same = some v
  /-- Variants are listed in the order in which they were first inserted. -/
  ordered : ∀ s, ((x.variantsOf s).map Variant.identity).Pairwise
    (SeenBefore (inserted.map Variant.identity))
  contains : ∀ v, x.contains v = true ↔ ∃ w ∈ inserted, v.same w = true
  insert_known : ∀ v, (x.insert v).1 = false ↔ ∃ w ∈ inserted, v.same w = true
  insert_eq_self : ∀ v, (x.insert v).1 = false → (x.insert v).2 = x
  find : ∀ s ks withoutLocal, x.find s ks withoutLocal =
    if x.variantsOf s = [] then .shaderAbsent
    else if ∃ v ∈ x.variantsOf s, v.keywords = ks ∨
        withoutLocal = true ∧ (v.keywords.filter fun k => !h.isLocal s k) = ks then .matched
    else .notMatched

namespace Indexes

variable {x : ReferenceIndex} {vs : List Variant}

theorem variantsOf_eq (hx : Indexes x vs) (s : ShaderId) :
    x.variantsOf s = (firstsBy Variant.identity vs).filter fun v => v.shader = s := by
  have hshader (v w : Variant) (hvw : v.identity = w.identity) :
      decide (v.shader = s) = decide (w.shader = s) := by
    have hsame : v.shader = w.shader := congrArg Prod.fst hvw
    rw [hsame]
  rw [ReferenceIndex.variantsOf_eq, hx.variants, Variant.distinct_eq, firstsBy_filter _ hshader]

theorem mem_variantsOf_iff (hx : Indexes x vs) {s : ShaderId} {v : Variant} :
    v ∈ x.variantsOf s ↔ v.shader = s ∧ vs.find? v.same = some v := by
  have hsame : (fun w : Variant => decide (w.identity = v.identity)) = v.same := by
    funext w
    rw [Variant.same, Bool.eq_iff_iff, decide_eq_true_iff, beq_iff_eq, eq_comm]
  rw [hx.variantsOf_eq, List.mem_filter, mem_firstsBy_iff, hsame, decide_eq_true_iff, and_comm]

theorem mem_of_mem_variantsOf (hx : Indexes x vs) {s : ShaderId} {v : Variant}
    (hv : v ∈ x.variantsOf s) : v ∈ vs :=
  List.mem_of_find?_eq_some (hx.mem_variantsOf_iff.mp hv).2

/-- A variant is known if and only if it was inserted. -/
theorem contains_iff_inserted (hx : Indexes x vs) (v : Variant) :
    x.contains v = true ↔ ∃ w ∈ vs, v.same w = true := by
  rw [hx.contains_iff, List.any_eq_true]
  constructor
  · rintro ⟨w, hw, hsame⟩
    exact ⟨w, List.mem_of_mem_filter (Variant.mem_of_mem_distinct hw), hsame⟩
  · rintro ⟨w, hw, hsame⟩
    have hshader : w.shader = v.shader := (Variant.same_iff.mp hsame).1.symm
    have hfilter : w ∈ vs.filter fun w => w.shader = v.shader :=
      List.mem_filter.mpr ⟨hw, decide_eq_true hshader⟩
    obtain ⟨u, hu, hwu⟩ := Variant.exists_mem_distinct hfilter
    exact ⟨u, hu, beq_iff_eq.mpr ((beq_iff_eq.mp hsame).trans (beq_iff_eq.mp hwu))⟩

/-- **An index of variants of one host answers like a search.** -/
theorem answersFrom {h : Host} (hx : Indexes x vs) (hvs : ∀ v ∈ vs, v.OfHost h) :
    AnswersFrom h vs x where
  distinct s := by
    have hnodup : ((x.variantsOf s).map Variant.identity).Nodup := by
      rw [hx.variantsOf_eq]
      exact (nodup_map_firstsBy Variant.identity vs).sublist (List.filter_sublist.map _)
    exact (List.pairwise_map.mp hnodup).imp beq_false_of_ne
  listed s v := hx.mem_variantsOf_iff
  ordered s := by
    rw [hx.variantsOf_eq]
    exact (pairwise_map_firstsBy Variant.identity vs).sublist (List.filter_sublist.map _)
  contains := hx.contains_iff_inserted
  insert_known v := (x.insert_fst_eq_false_iff v).trans (hx.contains_iff_inserted v)
  insert_eq_self v hv := by
    rw [ReferenceIndex.insert, if_pos ((x.insert_fst_eq_false_iff v).mp hv)]
  find s ks withoutLocal := by
    -- The listed variants have the global keywords that the host gives them.
    have hglobal : ∀ v ∈ x.variantsOf s,
        v.globalKeywords = v.keywords.filter fun k => !h.isLocal s k := by
      intro v hv
      rw [← (hx.mem_variantsOf_iff.mp hv).1]
      exact hvs v (hx.mem_of_mem_variantsOf hv)
    rw [hx.find_eq]
    congr 1
    refine if_congr (exists_congr fun v => and_congr_right fun hv => ?_) rfl rfl
    rw [hglobal v hv]

end Indexes

/-! ### The sets of keywords that a shader was given -/

/-- A set of keywords that a shader was given, by an entry of a catalog that has the name of the
shader or by a variant. -/
def Given (h : Host) (catalogs : List Catalog) (vs : List Variant) (s : ShaderId)
    (ks : StringSet) : Prop :=
  (∃ c ∈ catalogs, ∃ entry ∈ c.shaders, h.find? entry.shader = some s ∧
    ∃ v ∈ entry.variants, StringSet.ofList v.keywords = ks) ∨
  ∃ v ∈ vs, v.shader = s ∧ v.keywords = ks

variable {h : Host} {catalogs : List Catalog} {vs : List Variant}

theorem given_iff {s : ShaderId} {ks : StringSet} :
    Given h catalogs vs s ks ↔ ∃ v ∈ inserted h catalogs vs, v.shader = s ∧ v.keywords = ks := by
  simp only [inserted, List.mem_append, or_and_right, exists_or, mem_catalogVariants, Given]
  refine or_congr_left ?_
  constructor
  · rintro ⟨c, hc, entry, hentry, hs, v, hv, rfl⟩
    exact ⟨_, ⟨c, hc, entry, hentry, s, hs, v, hv, rfl⟩, rfl, rfl⟩
  · rintro ⟨-, ⟨c, hc, entry, hentry, shader, hshader, v, hv, rfl⟩, rfl, rfl⟩
    exact ⟨c, hc, entry, hentry, hshader, v, hv, rfl⟩

theorem find_eq_shaderAbsent_iff_given (s : ShaderId) (ks : StringSet) (withoutLocal : Bool) :
    (reached h catalogs vs).find s ks withoutLocal = .shaderAbsent ↔
      ∀ given, ¬ Given h catalogs vs s given := by
  rw [(indexes_reached h catalogs vs).find_eq_absent_iff]
  simp only [given_iff]
  constructor
  · rintro hnone - ⟨v, hv, hs, -⟩
    exact hnone v hv hs
  · exact fun hnone v hv hs => hnone v.keywords ⟨v, hv, hs, rfl⟩

theorem find_eq_matched_iff_given (hvs : ∀ v ∈ vs, v.OfHost h) (s : ShaderId) (ks : StringSet)
    (withoutLocal : Bool) :
    (reached h catalogs vs).find s ks withoutLocal = .matched ↔
      ∃ given, Given h catalogs vs s given ∧ (given = ks ∨
        withoutLocal = true ∧ (given.filter fun k => !h.isLocal s k) = ks) := by
  have hall : ∀ v ∈ inserted h catalogs vs, v.OfHost h := ofHost_of_mem_inserted hvs
  rw [(indexes_reached h catalogs vs).find_eq_matched_iff hall]
  simp only [given_iff]
  constructor
  · rintro ⟨v, hv, rfl, hks⟩
    rw [hall v hv] at hks
    exact ⟨v.keywords, ⟨v, hv, rfl, rfl⟩, hks⟩
  · rintro ⟨-, ⟨v, hv, rfl, rfl⟩, hks⟩
    rw [← hall v hv] at hks
    exact ⟨v, hv, rfl, hks⟩

/-- **The index answers like a search through the variants that it was given**, and what it finds
for a shader depends on nothing but the sets of keywords that the shader was given. -/
theorem reference_answers_from_inserted (h : Host) (catalogs : List Catalog) (vs : List Variant)
    (hvs : ∀ v ∈ vs, v.OfHost h) :
    AnswersFrom h (inserted h catalogs vs) (reached h catalogs vs) ∧
      ∀ (catalogs' : List Catalog) (vs' : List Variant), (∀ v ∈ vs', v.OfHost h) →
        ∀ s, (∀ ks, Given h catalogs vs s ks ↔ Given h catalogs' vs' s ks) →
          ∀ ks withoutLocal, (reached h catalogs vs).find s ks withoutLocal =
            (reached h catalogs' vs').find s ks withoutLocal := by
  refine ⟨(indexes_reached h catalogs vs).answersFrom (ofHost_of_mem_inserted hvs), ?_⟩
  intro catalogs' vs' hvs' s hgiven ks withoutLocal
  refine ReferenceMatch.eq_of_iff ?_ ?_
  · rw [find_eq_matched_iff_given hvs, find_eq_matched_iff_given hvs']
    simp only [hgiven]
  · rw [find_eq_shaderAbsent_iff_given, find_eq_shaderAbsent_iff_given]
    simp only [hgiven]

/-- A host with one shader. -/
def estuaryHost : Host := .ofList [{ name := "Estuary", localKeywords := .ofList ["_LOCAL"] }]

/-- A catalog that lists a variant twice, and one of a shader that is not known. -/
def estuaryCatalogs : List Catalog := [
  ⟨[⟨"Estuary", [⟨.normal, ["A", "B"]⟩, ⟨.normal, ["B", "A", "B"]⟩]⟩,
    ⟨"Gone", [⟨.normal, ["D"]⟩]⟩]⟩,
  ⟨[⟨"Estuary", [⟨.shadowCaster, ["C", "_LOCAL"]⟩]⟩]⟩]

/-- Variants with the same sets of keywords, in turns and in other passes. -/
def estuaryVariants : List Variant := [
  .ofKeywords estuaryHost ⟨0⟩ .normal ["_LOCAL", "C"],
  .ofKeywords estuaryHost ⟨0⟩ .deferred ["B", "A"]]

theorem reference_answers_from_inserted_estuary :
    (∀ v ∈ estuaryVariants, v.OfHost estuaryHost) ∧
      AnswersFrom estuaryHost (inserted estuaryHost estuaryCatalogs estuaryVariants)
        (reached estuaryHost estuaryCatalogs estuaryVariants) ∧
      ((reached estuaryHost estuaryCatalogs estuaryVariants).variantsOf ⟨0⟩).length = 4 ∧
      (∀ ks, Given estuaryHost estuaryCatalogs estuaryVariants ⟨0⟩ ks ↔
        Given estuaryHost [] estuaryVariants ⟨0⟩ ks) ∧
      (reached estuaryHost [] estuaryVariants).find ⟨0⟩ (.ofList ["C"]) true = .matched := by
  have hhost : ∀ v ∈ estuaryVariants, v.OfHost estuaryHost := by
    simp [estuaryVariants, Variant.ofHost_ofKeywords]
  have hgiven : ∀ ks, Given estuaryHost estuaryCatalogs estuaryVariants ⟨0⟩ ks ↔
      Given estuaryHost [] estuaryVariants ⟨0⟩ ks := by
    have hfirst : ∀ v ∈ inserted estuaryHost estuaryCatalogs estuaryVariants,
        ∃ w ∈ estuaryVariants, w.shader = v.shader ∧ w.keywords = v.keywords := by
      decide +kernel
    intro ks
    rw [given_iff, given_iff]
    constructor
    · rintro ⟨v, hv, hs, hks⟩
      obtain ⟨w, hw, hshader, hkeywords⟩ := hfirst v hv
      exact ⟨w, hw, hshader.trans hs, hkeywords.trans hks⟩
    · rintro ⟨v, hv, h⟩
      exact ⟨v, List.mem_append_right _ hv, h⟩
  obtain ⟨hanswers, hfind⟩ :=
    reference_answers_from_inserted estuaryHost estuaryCatalogs estuaryVariants hhost
  refine ⟨hhost, hanswers, by decide +kernel, hgiven, ?_⟩
  rw [← hfind [] estuaryVariants hhost ⟨0⟩ hgiven]
  decide +kernel

end ReferenceIndex

end VariantStrip
