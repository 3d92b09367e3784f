/-
The index of known variants as a list of variants.

An index keeps the variants of each shader without repetitions, and beside them the sets of
keywords that variants are found by.  These sets are caches of the list: `Indexes x vs` says that
`x` is what inserting `vs` in order leads to, and `Indexes.insert` is its step.  Hence

* `Indexes.find_eq` — what is found depends only on the variants that the index lists,
* `Indexes.find_eq_absent_iff` — a shader is absent if none of the variants is one of its own,
* `Indexes.find_eq_matched_iff` — a set of keywords is matched if some variant of the shader has
  it, whatever else was inserted, in whatever order,
* `ReferenceIndex.indexes_ofCatalogs` — the index of catalogs holds the variants that they list for
  the shaders of the host (`catalogVariants`).
-/
import Mathlib.Data.List.Induction
import VariantStrip.Proofs.FirstSeen
import VariantStrip.Proofs.StringSet
import VariantStrip.Reference

namespace VariantStrip

/-! ### Variants without repetitions -/

namespace Variant

theorem same_iff {v w : Variant} :
    v.same w = true ↔ v.shader = w.shader ∧ v.passType = w.passType ∧ v.keywords = w.keywords := by
  simp [same, identity]

theorem distinct_concat (vs : List Variant) (v : Variant) :
    distinct (vs ++ [v]) =
      if (distinct vs).any v.same then distinct vs else distinct vs ++ [v] := by
  rw [distinct, List.foldl_append]
  rfl

/-- The first one of the variants that are the same is kept. -/
theorem distinct_eq (vs : List Variant) : distinct vs = firstsBy identity vs := by
  induction vs using List.reverseRecOn with
  | nil => rfl
  | append_singleton vs v ih =>
    have hany : (firstsBy identity vs).any v.same = true ↔ v.identity ∈ vs.map identity := by
      rw [← mem_map_firstsBy identity, List.any_eq_true, List.mem_map]
      exact exists_congr fun w => and_congr_right fun _ => beq_iff_eq.trans eq_comm
    rw [distinct_concat, firstsBy_concat, ih]
    by_cases hmem : v.identity ∈ vs.map identity
    · rw [if_pos hmem, if_pos (hany.mpr hmem)]
    · rw [if_neg hmem, if_neg (mt hany.mp hmem)]

theorem mem_of_mem_distinct {vs : List Variant} {v : Variant} (h : v ∈ distinct vs) : v ∈ vs := by
  rw [distinct_eq] at h
  exact mem_of_mem_firstsBy identity h

theorem exists_mem_distinct {vs : List Variant} {v : Variant} (h : v ∈ vs) :
    ∃ w ∈ distinct vs, v.same w = true := by
  have hmem := (mem_map_firstsBy identity).mpr (List.mem_map_of_mem (f := identity) h)
  obtain ⟨w, hw, hidentity⟩ := List.mem_map.mp hmem
  rw [← distinct_eq] at hw
  exact ⟨w, hw, beq_iff_eq.mpr hidentity.symm⟩

/-- The global keywords are those that the host does not call local to the shader. -/
def OfHost (h : Host) (v : Variant) : Prop :=
  v.globalKeywords = v.keywords.filter fun k => !h.isLocal v.shader k

theorem ofHost_ofKeywords (h : Host) (shader : ShaderId) (passType : PassType)
    (keywords : List String) : OfHost h (ofKeywords h shader passType keywords) := rfl

/-- Variants of one host that are the same have the same global keywords. -/
theorem OfHost.globalKeywords_eq {h : Host} {v w : Variant} (hv : v.OfHost h) (hw : w.OfHost h)
    (hsame : v.same w = true) : v.globalKeywords = w.globalKeywords := by
  obtain ⟨hshader, -, hkeywords⟩ := same_iff.mp hsame
  rw [hv, hw, hshader, hkeywords]

end Variant

/-! ### Entries -/

namespace KnownVariants

@[simp] theorem variants_add (k : KnownVariants) (v : Variant) :
    (k.add v).variants = k.variants ++ [v] := rfl

theorem mem_keywordSets_add {k : KnownVariants} {v : Variant} {s : StringSet} :
    s ∈ (k.add v).keywordSets ↔ s ∈ k.keywordSets ∨ s = v.keywords := by
  rw [add]
  by_cases h : k.keywordSets.contains v.keywords = true
  · rw [if_pos h]
    have hmem : v.keywords ∈ k.keywordSets := by simpa using h
    exact ⟨Or.inl, fun hs => hs.elim id fun hs => hs ▸ hmem⟩
  · rw [if_neg h, List.mem_cons]
    exact or_comm

theorem mem_globalSets_add {k : KnownVariants} {v : Variant} {s : StringSet} :
    s ∈ (k.add v).globalSets ↔ s ∈ k.globalSets ∨ s = v.globalKeywords := by
  rw [add]
  by_cases h : k.globalSets.contains v.globalKeywords = true
  · simp only [if_pos h]
    have hmem : v.globalKeywords ∈ k.globalSets := by simpa using h
    exact ⟨Or.inl, fun hs => hs.elim id fun hs => hs ▸ hmem⟩
  · simp only [if_neg h, List.mem_cons]
    exact or_comm

end KnownVariants

namespace ReferenceIndex

theorem lookup_addTo (v : Variant) (es : List (ShaderId × KnownVariants)) (s : ShaderId) :
    (addTo v es).lookup s =
      if s = v.shader then some (((es.lookup s).getD {}).add v) else es.lookup s := by
  induction es with
  | nil =>
    by_cases hs : s = v.shader
    · simp [addTo, hs]
    · have hs' : (s == v.shader) = false := by simpa using hs
      simp [addTo, hs, hs', List.lookup_cons]
  | cons e es ih =>
    obtain ⟨shader, known⟩ := e
    rw [addTo]
    by_cases hshader : shader = v.shader
    · rw [if_pos hshader]
      by_cases hs : s = v.shader
      · simp [hs, hshader]
      · have hs' : (s == v.shader) = false := by simpa using hs
        simp [hs, hs', hshader, List.lookup_cons]
    · rw [if_neg hshader]
      by_cases hs : s = shader
      · simp [hs, hshader]
      · have hs' : (s == shader) = false := by simpa using hs
        simp [List.lookup_cons, hs', ih]

/-- What is known of a shader. -/
def known (x : ReferenceIndex) (s : ShaderId) : KnownVariants := (x.entry? s).getD {}

theorem variantsOf_eq (x : ReferenceIndex) (s : ShaderId) :
    x.variantsOf s = (x.known s).variants := by
  rw [variantsOf, known]
  cases x.entry? s <;> rfl

theorem known_insert {x : ReferenceIndex} {v : Variant} (h : ¬ x.contains v = true)
    (s : ShaderId) :
    (x.insert v).2.known s = if s = v.shader then (x.known s).add v else x.known s := by
  rw [insert, if_neg h, known, entry?, lookup_addTo]
  by_cases hs : s = v.shader
  · rw [if_pos hs, if_pos hs]
    rfl
  · rw [if_neg hs, if_neg hs]
    rfl

/-! ### What an index holds -/

/-- The index is the one that inserting some variants in order leads to. -/
structure Indexes (x : ReferenceIndex) (vs : List Variant) : Prop where
  entry_isSome : ∀ s, (x.entry? s).isSome = true ↔ ∃ v ∈ vs, v.shader = s
  variants : ∀ s, (x.known s).variants = Variant.distinct (vs.filter fun v => v.shader = s)
  keywordSets : ∀ s ks, ks ∈ (x.known s).keywordSets ↔
    ∃ v ∈ (x.known s).variants, v.keywords = ks
  globalSets : ∀ s ks, ks ∈ (x.known s).globalSets ↔
    ∃ v ∈ (x.known s).variants, v.globalKeywords = ks

namespace Indexes

theorem empty : Indexes {} [] where
  entry_isSome _ := iff_of_false Bool.false_ne_true (by simp)
  variants _ := rfl
  keywordSets _ _ := by simp [known, entry?]
  globalSets _ _ := by simp [known, entry?]

variable {x : ReferenceIndex} {vs : List Variant}

theorem filter_concat (vs : List Variant) (v : Variant) (s : ShaderId) :
    (vs ++ [v]).filter (fun v => v.shader = s) =
      if s = v.shader then vs.filter (fun v => v.shader = s) ++ [v]
      else vs.filter fun v => v.shader = s := by
  by_cases hs : s = v.shader
  · simp [List.filter_append, hs]
  · simp [List.filter_append, hs, Ne.symm hs]

theorem contains_iff (hx : Indexes x vs) (v : Variant) :
    x.contains v = true ↔
      (Variant.distinct (vs.filter fun w => w.shader = v.shader)).any v.same = true := by
  rw [ReferenceIndex.contains, variantsOf_eq, hx.variants]

/-- Inserting a variant that is known changes nothing. -/
theorem insert_known (hx : Indexes x vs) {v : Variant} (hv : x.contains v = true) :
    Indexes x (vs ++ [v]) := by
  refine ⟨fun s => ?_, fun s => ?_, hx.keywordSets, hx.globalSets⟩
  · rw [hx.entry_isSome]
    refine ⟨fun ⟨w, hw, hs⟩ => ⟨w, List.mem_append_left _ hw, hs⟩, fun ⟨w, hw, hs⟩ => ?_⟩
    rcases List.mem_append.mp hw with hw | hw
    · exact ⟨w, hw, hs⟩
    · -- The same variant was inserted before, and its shader is the same.
      rw [List.mem_singleton.mp hw] at hs
      rw [← hs, ← hx.entry_isSome]
      cases hentry : x.entry? v.shader with
      | none => simp [ReferenceIndex.contains, variantsOf, hentry] at hv
      | some known => rfl
  · rw [hx.variants, filter_concat]
    by_cases hs : s = v.shader
    · rw [if_pos hs, Variant.distinct_concat, hs, if_pos ((hx.contains_iff v).mp hv)]
    · rw [if_neg hs]

/-- Inserting a new variant adds it to the variants of its shader, and to both caches. -/
theorem insert_new (hx : Indexes x vs) {v : Variant} (hv : ¬ x.contains v = true) :
    Indexes (x.insert v).2 (vs ++ [v]) := by
  refine ⟨fun s => ?_, fun s => ?_, fun s ks => ?_, fun s ks => ?_⟩
  · rw [ReferenceIndex.insert, if_neg hv, entry?, lookup_addTo]
    by_cases hs : s = v.shader
    · rw [if_pos hs, hs]
      simp
    · rw [if_neg hs, ← entry?, hx.entry_isSome]
      simp [Ne.symm hs]
  · rw [known_insert hv, filter_concat]
    by_cases hs : s = v.shader
    · have hany := fun h => hv ((hx.contains_iff v).mpr h)
      rw [if_pos hs, if_pos hs, Variant.distinct_concat, hs, if_neg hany,
        KnownVariants.variants_add, hx.variants]
    · rw [if_neg hs, if_neg hs, hx.variants]
  · rw [known_insert hv]
    by_cases hs : s = v.shader
    · rw [if_pos hs, KnownVariants.mem_keywordSets_add, hx.keywordSets]
      simp [or_and_right, exists_or, eq_comm]
    · rw [if_neg hs, hx.keywordSets]
  · rw [known_insert hv]
    by_cases hs : s = v.shader
    · rw [if_pos hs, KnownVariants.mem_globalSets_add, hx.globalSets]
      simp [or_and_right, exists_or, eq_comm]
    · rw [if_neg hs, hx.globalSets]

theorem insert (hx : Indexes x vs) (v : Variant) : Indexes (x.insert v).2 (vs ++ [v]) := by
  by_cases hv : x.contains v = true
  · rw [ReferenceIndex.insert, if_pos hv]
    exact hx.insert_known hv
  · exact hx.insert_new hv

theorem foldl_insert (hx : Indexes x vs) (ws : List Variant) :
    Indexes (ws.foldl (fun x v => (x.insert v).2) x) (vs ++ ws) := by
  induction ws generalizing x vs with
  | nil => simpa using hx
  | cons w ws ih => simpa using ih (hx.insert w)

theorem find_eq_absent_iff (hx : Indexes x vs) (s : ShaderId) (ks : StringSet)
    (withoutLocal : Bool) :
    x.find s ks withoutLocal = .shaderAbsent ↔ ∀ v ∈ vs, v.shader ≠ s := by
  have hentry := hx.entry_isSome s
  rw [find]
  cases hs : x.entry? s with
  | none =>
    rw [hs] at hentry
    refine iff_of_true rfl fun v hv hvs => ?_
    simpa using hentry.mpr ⟨v, hv, hvs⟩
  | some k =>
    rw [hs] at hentry
    obtain ⟨v, hv, hvs⟩ := hentry.mp rfl
    refine iff_of_false ?_ fun h => h v hv hvs
    by_cases hmatch : k.keywordSets.contains ks || (withoutLocal && k.globalSets.contains ks)
    · simp only [if_pos hmatch, reduceCtorEq, not_false_eq_true]
    · simp only [if_neg hmatch, reduceCtorEq, not_false_eq_true]

/-- **The caches are exact**: a set of keywords is matched if and only if some variant of the
shader has it, as its keywords or, if asked to, as its global keywords. -/
theorem find_eq_matched_iff (hx : Indexes x vs) {h : Host} (hvs : ∀ v ∈ vs, v.OfHost h)
    (s : ShaderId) (ks : StringSet) (withoutLocal : Bool) :
    x.find s ks withoutLocal = .matched ↔
      ∃ v ∈ vs, v.shader = s ∧
        (v.keywords = ks ∨ withoutLocal = true ∧ v.globalKeywords = ks) := by
  have hmem {w : Variant} (hw : w ∈ (x.known s).variants) : w ∈ vs ∧ w.shader = s := by
    rw [hx.variants] at hw
    simpa using List.mem_filter.mp (Variant.mem_of_mem_distinct hw)
  -- The index lists the first one of the variants that are the same.
  have hlisted {v : Variant} (hv : v ∈ vs) (hs : v.shader = s) :
      ∃ w ∈ (x.known s).variants,
        w.keywords = v.keywords ∧ w.globalKeywords = v.globalKeywords := by
    have hfilter : v ∈ vs.filter fun v => v.shader = s :=
      List.mem_filter.mpr ⟨hv, by simpa using hs⟩
    obtain ⟨w, hw, hsame⟩ := Variant.exists_mem_distinct hfilter
    rw [← hx.variants] at hw
    exact ⟨w, hw, (Variant.same_iff.mp hsame).2.2.symm,
      ((hvs v hv).globalKeywords_eq (hvs w (hmem hw).1) hsame).symm⟩
  have hcached : (ks ∈ (x.known s).keywordSets ∨
      withoutLocal = true ∧ ks ∈ (x.known s).globalSets) ↔
      ∃ v ∈ vs, v.shader = s ∧
        (v.keywords = ks ∨ withoutLocal = true ∧ v.globalKeywords = ks) := by
    rw [hx.keywordSets, hx.globalSets]
    constructor
    · rintro (⟨w, hw, hks⟩ | ⟨hlocal, w, hw, hks⟩)
      · exact ⟨w, (hmem hw).1, (hmem hw).2, .inl hks⟩
      · exact ⟨w, (hmem hw).1, (hmem hw).2, .inr ⟨hlocal, hks⟩⟩
    · rintro ⟨v, hv, hs, hks⟩
      obtain ⟨w, hw, hkeywords, hglobal⟩ := hlisted hv hs
      rcases hks with hks | ⟨hlocal, hks⟩
      · exact .inl ⟨w, hw, hkeywords.trans hks⟩
      · exact .inr ⟨hlocal, w, hw, hglobal.trans hks⟩
  rw [← hcached, find, known]
  cases x.entry? s with
  | none => simp
  | some k =>
    by_cases hmatch : k.keywordSets.contains ks || (withoutLocal && k.globalSets.contains ks)
    · simp only [if_pos hmatch, true_iff]
      simpa using hmatch
    · simp only [if_neg hmatch, reduceCtorEq, false_iff]
      simpa using hmatch

/-- A shader has an entry if it has variants. -/
theorem entry?_eq_none_iff (hx : Indexes x vs) (s : ShaderId) :
    x.entry? s = none ↔ x.variantsOf s = [] := by
  constructor
  · intro hentry
    rw [variantsOf, hentry]
    rfl
  · intro hnil
    by_contra hentry
    obtain ⟨v, hv, hvs⟩ := (hx.entry_isSome s).mp (Option.isSome_iff_ne_none.mpr hentry)
    have hfilter : v ∈ vs.filter fun v => v.shader = s :=
      List.mem_filter.mpr ⟨hv, decide_eq_true hvs⟩
    obtain ⟨w, hw, -⟩ := Variant.exists_mem_distinct hfilter
    rw [← hx.variants, ← variantsOf_eq, hnil] at hw
    cases hw

/-- **What is found depends on the variants that are listed.** -/
theorem find_eq (hx : Indexes x vs) (s : ShaderId) (ks : StringSet) (withoutLocal : Bool) :
    x.find s ks withoutLocal =
      if x.variantsOf s = [] then .shaderAbsent
      else if ∃ v ∈ x.variantsOf s, v.keywords = ks ∨ withoutLocal = true ∧ v.globalKeywords = ks
        then .matched else .notMatched := by
  by_cases hnil : x.variantsOf s = []
  · rw [if_pos hnil, find, (hx.entry?_eq_none_iff s).mpr hnil]
  · obtain ⟨k, hk⟩ := Option.ne_none_iff_exists'.mp (mt (hx.entry?_eq_none_iff s).mp hnil)
    have hknown : x.known s = k := by rw [known, hk, Option.getD_some]
    have hkeywords := hx.keywordSets s ks
    have hglobals := hx.globalSets s ks
    rw [← variantsOf_eq, hknown] at hkeywords hglobals
    rw [if_neg hnil, find, hk]
    refine if_congr ?_ rfl rfl
    simp only [Bool.or_eq_true, Bool.and_eq_true, List.contains_iff_mem, hkeywords, hglobals]
    constructor
    · rintro (⟨v, hv, h⟩ | ⟨hlocal, v, hv, h⟩)
      · exact ⟨v, hv, .inl h⟩
      · exact ⟨v, hv, .inr ⟨hlocal, h⟩⟩
    · rintro ⟨v, hv, h | ⟨hlocal, h⟩⟩
      · exact .inl ⟨v, hv, h⟩
      · exact .inr ⟨hlocal, v, hv, h⟩

end Indexes

/-! ### The index of catalogs -/

/-- The variants that a catalog entry lists for a shader of the host. -/
def entryVariants (h : Host) (entry : CatalogShader) : List Variant :=
  match h.find? entry.shader with
  | none => []
  | some shader => entry.variants.map fun v => .ofKeywords h shader v.passType v.keywords

/-- The variants that catalogs list for the shaders of the host, in order. -/
def catalogVariants (h : Host) (catalogs : List Catalog) : List Variant :=
  (catalogs.flatMap (·.shaders)).flatMap (entryVariants h)

theorem mem_catalogVariants {h : Host} {catalogs : List Catalog} {v : Variant} :
    v ∈ catalogVariants h catalogs ↔
      ∃ c ∈ catalogs, ∃ entry ∈ c.shaders, ∃ shader, h.find? entry.shader = some shader ∧
        ∃ w ∈ entry.variants, Variant.ofKeywords h shader w.passType w.keywords = v := by
  simp only [catalogVariants, List.mem_flatMap, entryVariants]
  constructor
  · rintro ⟨entry, ⟨c, hc, hentry⟩, hv⟩
    cases hshader : h.find? entry.shader with
    | none => simp [hshader] at hv
    | some shader =>
      simp only [hshader, List.mem_map] at hv
      exact ⟨c, hc, entry, hentry, shader, hshader, hv⟩
  · rintro ⟨c, hc, entry, hentry, shader, hshader, hv⟩
    refine ⟨entry, ⟨c, hc, hentry⟩, ?_⟩
    simp only [hshader, List.mem_map]
    exact hv

theorem ofHost_of_mem_catalogVariants {h : Host} {catalogs : List Catalog} {v : Variant}
    (hv : v ∈ catalogVariants h catalogs) : v.OfHost h := by
  obtain ⟨-, -, -, -, shader, -, w, -, rfl⟩ := mem_catalogVariants.mp hv
  exact Variant.ofHost_ofKeywords h shader w.passType w.keywords

theorem value_addEntry (h : Host) (x : ReferenceIndex) (entry : CatalogShader) :
    (addEntry h x entry).value =
      (entryVariants h entry).foldl (fun x v => (x.insert v).2) x := by
  rw [addEntry, entryVariants]
  cases h.find? entry.shader with
  | none => rfl
  | some shader => simp [List.foldl_map]

/-- The index of catalogs is what inserting their variants in order leads to. -/
theorem indexes_ofCatalogs (h : Host) (catalogs : List Catalog) :
    Indexes (ofCatalogs h catalogs).value (catalogVariants h catalogs) := by
  have hvalue : (ofCatalogs h catalogs).value =
      (catalogVariants h catalogs).foldl (fun x v => (x.insert v).2) {} := by
    rw [ofCatalogs]
    simp only [Logged.value_bind, Logged.value_pure, Logged.value_foldlM, value_addEntry,
      catalogVariants, List.foldl_flatMap]
  rw [hvalue]
  simpa using Indexes.empty.foldl_insert (catalogVariants h catalogs)

end ReferenceIndex

end VariantStrip
