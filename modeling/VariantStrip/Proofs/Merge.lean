/-
What merging catalogs leads to.

Catalogs are merged variant by variant, but what comes out depends on less.  A catalog is a list of
`Listing`s, variants under the names of their shaders, and `Catalog.gathered` says which catalog
some listings make: every shader once, in the order in which they are first listed, and under it
every variant once.  Then

* `Catalog.Merging.Holds` — what is kept while merging belongs together: the catalog, the variants
  that have been seen and the positions of the shaders are those of the listings so far,
* `Catalog.Merging.Holds.push` — the step of merging, which takes one more listing,
* `Catalog.value_merge` — so merging gathers the listings of the catalogs, without those of unknown
  shaders and without the keywords that the host forbids,
* `Catalog.alike_listings_gathered` — what a gathered catalog lists makes the same catalog again,
  also in front of other listings and after them (`Catalog.Alike.append`).

The main result is `Catalog.merge_append`: catalogs may be merged in parts.
-/
import VariantStrip.Catalog.Merge
import VariantStrip.Proofs.FirstSeen
import VariantStrip.Proofs.Host
import VariantStrip.Proofs.StringSet

namespace VariantStrip

/-- A known variant, under the name of its shader. -/
abbrev Listing := String × CatalogVariant

namespace Catalog

/-! ### Gathering -/

/-- What some listings say of the shader with a name. -/
def under (name : String) (ls : List Listing) : List CatalogVariant :=
  (ls.filter fun l => l.1 = name).map (·.2)

theorem under_append (name : String) (ls ls' : List Listing) :
    under name (ls ++ ls') = under name ls ++ under name ls' := by
  rw [under, List.filter_append, List.map_append]
  rfl

theorem under_singleton (name : String) (l : Listing) :
    under name [l] = if l.1 = name then [l.2] else [] := by
  by_cases hname : l.1 = name
  · simp [under, hname]
  · simp [under, hname]

theorem under_eq_nil {name : String} {ls : List Listing} (hname : name ∉ ls.map (·.1)) :
    under name ls = [] := by
  rw [under, List.map_eq_nil_iff, List.filter_eq_nil_iff]
  intro l hl heq
  exact hname (List.mem_map.mpr ⟨l, hl, of_decide_eq_true heq⟩)

theorem under_ne_nil {name : String} {ls : List Listing} (hname : name ∈ ls.map (·.1)) :
    under name ls ≠ [] := by
  obtain ⟨l, hl, rfl⟩ := List.mem_map.mp hname
  exact List.ne_nil_of_mem (List.mem_map_of_mem (List.mem_filter.mpr ⟨hl, decide_eq_true rfl⟩))

/-- The names that are listed. -/
def namesOf (ls : List Listing) : List String := (ls.map (·.1)).eraseDups

/-- The variants of a shader that are listed, each once. -/
def distinctUnder (name : String) (ls : List Listing) : List CatalogVariant :=
  firstsBy CatalogVariant.identity (under name ls)

/-- The catalog of some listings: shaders and variants in the order in which they are first
listed. -/
def gathered (ls : List Listing) : Catalog where
  shaders := (namesOf ls).map fun name => ⟨name, distinctUnder name ls⟩

/-- A variant is listed for a shader. -/
def Lists (ls : List Listing) (name : String) (identity : PassType × StringSet) : Prop :=
  identity ∈ (under name ls).map CatalogVariant.identity

instance (ls : List Listing) (name : String) (identity : PassType × StringSet) :
    Decidable (Lists ls name identity) :=
  inferInstanceAs (Decidable (_ ∈ _))

theorem mem_namesOf {ls : List Listing} {name : String} :
    name ∈ namesOf ls ↔ name ∈ ls.map (·.1) := List.mem_eraseDups

theorem nodup_namesOf (ls : List Listing) : (namesOf ls).Nodup := nodup_eraseDups _

theorem namesOf_concat (ls : List Listing) (l : Listing) :
    namesOf (ls ++ [l]) = if l.1 ∈ namesOf ls then namesOf ls else namesOf ls ++ [l.1] := by
  simp only [mem_namesOf]
  rw [namesOf, List.map_append, List.map_singleton, eraseDups_concat]
  rfl

theorem distinctUnder_concat (ls : List Listing) (l : Listing) (name : String) :
    distinctUnder name (ls ++ [l]) =
      if name = l.1 ∧ ¬ Lists ls l.1 l.2.identity then distinctUnder name ls ++ [l.2]
      else distinctUnder name ls := by
  rw [distinctUnder, under_append, under_singleton]
  by_cases hname : name = l.1
  · subst hname
    rw [if_pos rfl, firstsBy_concat]
    by_cases hlisted : Lists ls l.1 l.2.identity
    · have hmem : l.2.identity ∈ (under l.1 ls).map CatalogVariant.identity := hlisted
      rw [if_pos hmem, if_neg fun h => h.2 hlisted]
      rfl
    · have hmem : l.2.identity ∉ (under l.1 ls).map CatalogVariant.identity := hlisted
      rw [if_neg hmem, if_pos ⟨rfl, hlisted⟩]
      rfl
  · rw [if_neg (Ne.symm hname), if_neg fun h => hname h.1, List.append_nil]
    rfl

theorem distinctUnder_eq_nil {name : String} {ls : List Listing} (hname : name ∉ namesOf ls) :
    distinctUnder name ls = [] := by
  rw [distinctUnder, under_eq_nil fun h => hname (mem_namesOf.mpr h)]
  rfl

theorem Lists.mem_namesOf {ls : List Listing} {name : String} {identity : PassType × StringSet}
    (h : Lists ls name identity) : name ∈ namesOf ls := by
  by_contra hname
  rw [Lists, under_eq_nil fun h => hname (Catalog.mem_namesOf.mpr h)] at h
  cases h

theorem lists_concat {ls : List Listing} {l : Listing} {name : String}
    {identity : PassType × StringSet} :
    Lists (ls ++ [l]) name identity ↔
      (l.1, l.2.identity) = (name, identity) ∨ Lists ls name identity := by
  rw [Lists, under_append, under_singleton, List.map_append, List.mem_append, or_comm, Lists,
    Prod.mk.injEq]
  by_cases hname : l.1 = name
  · simp [hname, eq_comm]
  · simp [hname]

/-! ### The step of merging -/

section

variable {ls : List Listing} {l : Listing}

/-- What is listed already changes nothing. -/
theorem gathered_concat_of_lists (hlisted : Lists ls l.1 l.2.identity) :
    gathered (ls ++ [l]) = gathered ls := by
  simp only [gathered, namesOf_concat, if_pos hlisted.mem_namesOf, distinctUnder_concat, hlisted,
    not_true, and_false, if_false]

/-- Changing the entry of one of several names. -/
theorem modify_idxOf_map {names : List String} (hnodup : names.Nodup) {name : String}
    (hname : name ∈ names) (entry : String → CatalogShader)
    (change : CatalogShader → CatalogShader) :
    (names.map entry).modify (names.idxOf name) change =
      names.map fun n => if n = name then change (entry n) else entry n := by
  induction names with
  | nil => cases hname
  | cons n names ih =>
    rw [List.nodup_cons] at hnodup
    rw [List.idxOf_cons, List.map_cons, List.map_cons]
    by_cases hn : n = name
    · subst hn
      have hrest : ∀ m ∈ names, entry m = if m = n then change (entry m) else entry m :=
        fun m hm => (if_neg fun h : m = n => hnodup.1 (h ▸ hm)).symm
      rw [beq_self_eq_true, cond_true, List.modify_zero_cons, if_pos rfl,
        List.map_congr_left hrest]
    · have hrest : name ∈ names := (List.mem_cons.mp hname).resolve_left (Ne.symm hn)
      rw [beq_eq_false_iff_ne.mpr hn, cond_false, List.modify_succ_cons, ih hnodup.2 hrest,
        if_neg hn]

/-- A new variant of a shader that is listed comes last in its entry. -/
theorem gathered_concat_of_known (hnew : ¬ Lists ls l.1 l.2.identity)
    (hname : l.1 ∈ namesOf ls) :
    gathered (ls ++ [l]) =
      ⟨(gathered ls).shaders.modify ((namesOf ls).idxOf l.1)
        fun s => { s with variants := s.variants ++ [l.2] }⟩ := by
  rw [gathered, gathered, modify_idxOf_map (nodup_namesOf ls) hname, namesOf_concat, if_pos hname]
  simp only [distinctUnder_concat, hnew, not_false_eq_true, and_true]
  congr 1
  refine List.map_congr_left fun name _ => ?_
  by_cases h : name = l.1
  · rw [if_pos h, if_pos h]
  · rw [if_neg h, if_neg h]

/-- The entry of a shader that is not listed comes last. -/
theorem gathered_concat_of_unknown (hname : l.1 ∉ namesOf ls) :
    gathered (ls ++ [l]) = ⟨(gathered ls).shaders ++ [⟨l.1, [l.2]⟩]⟩ := by
  have hnew : ¬ Lists ls l.1 l.2.identity := fun h => hname h.mem_namesOf
  rw [gathered, gathered, namesOf_concat, if_neg hname, List.map_append, List.map_singleton]
  simp only [distinctUnder_concat, hnew, not_false_eq_true, and_true, if_true,
    distinctUnder_eq_nil hname, List.nil_append]
  congr 2
  exact List.map_congr_left fun m hm => by rw [if_neg fun h : m = l.1 => hname (h ▸ hm)]

end

namespace Merging

/-- **What belongs together while merging.**  Some listings have been merged: they make the catalog,
what has been seen are their variants, and the positions are those of the entries of their
shaders. -/
structure Holds (m : Merging) (ls : List Listing) : Prop where
  catalog : m.catalog = gathered ls
  seen : ∀ name identity, (name, identity) ∈ m.seen ↔ Lists ls name identity
  positions : ∀ name, m.positions[name]? =
    if name ∈ namesOf ls then some ((namesOf ls).idxOf name) else none

theorem holds_nil : Holds {} [] where
  catalog := rfl
  seen name identity := iff_of_false Std.HashSet.not_mem_empty List.not_mem_nil
  positions name := by
    rw [if_neg (by simp [namesOf])]
    exact Std.HashMap.getElem?_empty

variable {m : Merging} {ls : List Listing}

theorem Holds.shaderCount (hm : m.Holds ls) : m.catalog.shaderCount = (namesOf ls).length := by
  rw [Catalog.shaderCount, hm.catalog, gathered, List.length_map]

/-- The positions of the shaders when there is one more of them. -/
theorem Holds.getElem?_insert (hm : m.Holds ls) {l : Listing} (hnew : l.1 ∉ namesOf ls)
    (name : String) :
    (m.positions.insert l.1 m.catalog.shaderCount)[name]? =
      if name ∈ namesOf (ls ++ [l]) then some ((namesOf (ls ++ [l])).idxOf name) else none := by
  rw [Std.HashMap.getElem?_insert, hm.positions, hm.shaderCount, namesOf_concat, if_neg hnew,
    List.idxOf_append]
  by_cases hname : name = l.1
  · subst hname
    simp [hnew]
  · by_cases hmem : name ∈ namesOf ls
    · simp [hmem, Ne.symm hname]
    · simp [hmem, hname, Ne.symm hname]

/-- A listing that has been seen is passed over. -/
theorem Holds.push_of_lists (hm : m.Holds ls) {l : Listing}
    (hlisted : Lists ls l.1 l.2.identity) : (m.push l.1 l.2).Holds (ls ++ [l]) := by
  have hnames : namesOf (ls ++ [l]) = namesOf ls := by
    rw [namesOf_concat, if_pos hlisted.mem_namesOf]
  rw [Merging.push, if_pos (Std.HashSet.mem_iff_contains.mp ((hm.seen _ _).mpr hlisted))]
  refine ⟨hm.catalog.trans (gathered_concat_of_lists hlisted).symm, fun name identity => ?_,
    fun name => ?_⟩
  · -- The variant is one of those that have been seen before.
    rw [hm.seen, lists_concat]
    refine ⟨.inr, fun h => h.elim (fun hsame => ?_) id⟩
    rw [Prod.mk.injEq] at hsame
    rw [← hsame.1, ← hsame.2]
    exact hlisted
  · rw [hm.positions, hnames]

/-- A listing that is new goes to the end of the entry of its shader. -/
theorem Holds.push_of_new (hm : m.Holds ls) {l : Listing}
    (hnew : ¬ Lists ls l.1 l.2.identity) : (m.push l.1 l.2).Holds (ls ++ [l]) := by
  have hseen (name : String) (identity : PassType × StringSet) :
      (name, identity) ∈ m.seen.insert (l.1, l.2.identity) ↔ Lists (ls ++ [l]) name identity := by
    rw [Std.HashSet.mem_insert, hm.seen, lists_concat, beq_iff_eq]
  rw [Merging.push,
    if_neg fun h => hnew ((hm.seen _ _).mp (Std.HashSet.mem_iff_contains.mpr h)), slot]
  dsimp only
  -- The positions say whether there is an entry already.
  by_cases hname : l.1 ∈ namesOf ls
  · have hposition : m.positions[l.1]? = some ((namesOf ls).idxOf l.1) := by
      rw [hm.positions, if_pos hname]
    have hnames : namesOf (ls ++ [l]) = namesOf ls := by rw [namesOf_concat, if_pos hname]
    rw [hposition]
    refine ⟨?_, hseen, fun name => ?_⟩
    · rw [gathered_concat_of_known hnew hname, ← hm.catalog]
    · rw [hnames]
      exact hm.positions name
  · have hposition : m.positions[l.1]? = none := by rw [hm.positions, if_neg hname]
    rw [hposition]
    refine ⟨?_, hseen, hm.getElem?_insert hname⟩
    -- The variant goes into the entry that has just been added.
    rw [gathered_concat_of_unknown hname, ← hm.catalog, Catalog.shaderCount]
    dsimp only
    rw [List.modify_eq_take_drop, List.take_left, List.drop_left]
    rfl

/-- **The step of merging.**  One more listing has been merged. -/
theorem Holds.push (hm : m.Holds ls) (l : Listing) : (m.push l.1 l.2).Holds (ls ++ [l]) := by
  by_cases hlisted : Lists ls l.1 l.2.identity
  · exact hm.push_of_lists hlisted
  · exact hm.push_of_new hlisted

end Merging

/-! ### Listings that make the same catalog -/

/-- The listings of a catalog. -/
def listings (c : Catalog) : List Listing :=
  c.shaders.flatMap fun s => s.variants.map fun v => (s.shader, v)

/-- Two lists of listings make the same catalog. -/
structure Alike (ls ls' : List Listing) : Prop where
  names : namesOf ls = namesOf ls'
  variants : ∀ name, distinctUnder name ls = distinctUnder name ls'

theorem Alike.gathered {ls ls' : List Listing} (h : Alike ls ls') :
    gathered ls = gathered ls' := by
  simp only [Catalog.gathered, h.names, h.variants]

theorem Alike.append {ls ls' ms ms' : List Listing} (hl : Alike ls ls') (hm : Alike ms ms') :
    Alike (ls ++ ms) (ls' ++ ms') where
  names := by
    have hnames (as bs : List Listing) :
        namesOf (as ++ bs) = (namesOf as ++ namesOf bs).eraseDups := by
      rw [namesOf, namesOf, namesOf, eraseDups_append_eraseDups, eraseDups_eraseDups_append,
        List.map_append]
    rw [hnames, hnames, hl.names, hm.names]
  variants name := by
    have hvariants (as bs : List Listing) : distinctUnder name (as ++ bs) =
        firstsBy CatalogVariant.identity (distinctUnder name as ++ distinctUnder name bs) := by
      rw [distinctUnder, distinctUnder, distinctUnder, firstsBy_append_firstsBy,
        firstsBy_firstsBy_append, under_append]
    rw [hvariants, hvariants, hl.variants, hm.variants]

section

variable {names : List String} (hnodup : names.Nodup) (vs : String → List CatalogVariant)

include hnodup

/-- The listings of entries with different names, under one of the names. -/
theorem under_flatMap (name : String) :
    under name (names.flatMap fun n => (vs n).map fun v => (n, v)) =
      if name ∈ names then vs name else [] := by
  induction names with
  | nil => rfl
  | cons n names ih =>
    rw [List.nodup_cons] at hnodup
    rw [List.flatMap_cons, under_append, ih hnodup.2]
    by_cases hn : n = name
    · subst hn
      have hself : under n ((vs n).map fun v => (n, v)) = vs n := by
        simp [under, List.filter_map, Function.comp_def]
      rw [hself, if_neg hnodup.1, if_pos List.mem_cons_self, List.append_nil]
    · have hother : under name ((vs n).map fun v => (n, v)) = [] := by
        simp [under, List.filter_map, Function.comp_def, hn]
      rw [hother, List.nil_append]
      simp only [List.mem_cons, Ne.symm hn, false_or]

theorem namesOf_flatMap (hvs : ∀ n ∈ names, vs n ≠ []) :
    namesOf (names.flatMap fun n => (vs n).map fun v => (n, v)) = names := by
  induction names with
  | nil => rfl
  | cons n names ih =>
    rw [List.nodup_cons] at hnodup
    rw [List.forall_mem_cons] at hvs
    obtain ⟨v, rest, hv⟩ := List.exists_cons_of_ne_nil hvs.1
    -- The rest of an entry repeats its name, and the other entries do not.
    have hrepeated : ((rest.map fun v => (n, v)).map (·.1)).filter (fun m => !m == n) = [] := by
      simp
    have hothers : ((names.flatMap fun n => (vs n).map fun v => (n, v)).map (·.1)).filter
        (fun m => !m == n) = (names.flatMap fun n => (vs n).map fun v => (n, v)).map (·.1) := by
      rw [List.filter_eq_self, List.forall_mem_map]
      intro l hl
      obtain ⟨m, hm, hlm⟩ := List.mem_flatMap.mp hl
      obtain ⟨w, -, rfl⟩ := List.mem_map.mp hlm
      have hne : m ≠ n := fun h => hnodup.1 (h ▸ hm)
      simpa using hne
    have hrest := ih hnodup.2 hvs.2
    rw [namesOf] at hrest ⊢
    rw [List.flatMap_cons, hv, List.map_cons, List.cons_append, List.map_cons, List.eraseDups_cons,
      List.map_append, List.filter_append, hrepeated, List.nil_append, hothers, hrest]

end

theorem distinctUnder_ne_nil {name : String} {ls : List Listing} (hname : name ∈ namesOf ls) :
    distinctUnder name ls ≠ [] := by
  intro hnil
  obtain ⟨v, hv⟩ := List.exists_mem_of_ne_nil _ (under_ne_nil (mem_namesOf.mp hname))
  have hmem := (mem_map_firstsBy CatalogVariant.identity).mpr (List.mem_map_of_mem hv)
  rw [← distinctUnder, hnil] at hmem
  cases hmem

/-- **What a gathered catalog lists makes the same catalog.** -/
theorem alike_listings_gathered (ls : List Listing) : Alike (gathered ls).listings ls := by
  have hlistings : (gathered ls).listings =
      (namesOf ls).flatMap fun n => (distinctUnder n ls).map fun v => (n, v) := by
    rw [listings, gathered, List.flatMap_map]
  refine ⟨?_, fun name => ?_⟩
  · rw [hlistings, namesOf_flatMap (nodup_namesOf ls) _ fun n => distinctUnder_ne_nil]
  · have hidem : firstsBy CatalogVariant.identity (distinctUnder name ls) = distinctUnder name ls :=
      firstsBy_firstsBy CatalogVariant.identity (under name ls)
    rw [distinctUnder, hlistings, under_flatMap (nodup_namesOf ls)]
    by_cases hname : name ∈ namesOf ls
    · rw [if_pos hname, hidem]
    · rw [if_neg hname, distinctUnder_eq_nil hname]
      rfl

end Catalog

/-! ### What the host forbids -/

/-- Whether the definition of a shader calls a keyword invalid. -/
def Host.forbids (h : Host) (id : ShaderId) (keyword : String) : Bool :=
  (h.shader? id).any (·.invalidKeywords.contains keyword)

/-- A variant of a shader without the keywords that the host forbids. -/
def CatalogVariant.cleaned (h : Host) (id : ShaderId) (v : CatalogVariant) : CatalogVariant :=
  { v with keywords := v.keywords.filter fun k => !h.forbids id k }

theorem CatalogVariant.cleaned_cleaned (h : Host) (id : ShaderId) (v : CatalogVariant) :
    (v.cleaned h id).cleaned h id = v.cleaned h id := by
  rw [cleaned, cleaned, List.filter_filter]
  simp only [Bool.and_self]

theorem CatalogVariant.cleaned_eq_self_iff {h : Host} {id : ShaderId} {v : CatalogVariant} :
    v.cleaned h id = v ↔ ∀ k ∈ v.keywords, h.forbids id k = false := by
  have hfilter : v.cleaned h id = v ↔
      v.keywords.filter (fun k => !h.forbids id k) = v.keywords := by
    cases v
    simp [cleaned]
  rw [hfilter, List.filter_eq_self]
  simp only [Bool.not_eq_true']

theorem Host.check_eq_ok_iff {h : Host} {id : ShaderId} {s : Shader} (hs : h.shader? id = some s)
    (keywords : List String) :
    h.check id keywords = .ok () ↔ ∀ k ∈ keywords, h.forbids id k = false := by
  have hforbids (k : String) : h.forbids id k = s.invalidKeywords.contains k := by
    rw [forbids, hs, Option.any_some]
  simp only [check, hs, hforbids]
  cases hfind : keywords.find? s.invalidKeywords.contains with
  | none => simpa [← Bool.not_eq_true] using hfind
  | some k =>
    have hk := List.find?_some hfind
    refine iff_of_false nofun fun h => ?_
    rw [h k (List.mem_of_find?_eq_some hfind)] at hk
    cases hk

namespace Catalog

/-- Repairing a variant of a known shader takes the forbidden keywords away. -/
theorem repair_eq {h : Host} {id : ShaderId} {s : Shader} (hs : h.shader? id = some s)
    (v : CatalogVariant) : (repair h id v).1 = v.cleaned h id := by
  have hvalid (k : String) : (h.check id [k]).isOk = !h.forbids id k := by
    have hcheck := Host.check_eq_ok_iff hs [k]
    rw [List.forall_mem_singleton] at hcheck
    cases hforbids : h.forbids id k with
    | false => rw [hcheck.mpr hforbids]; rfl
    | true =>
      cases hk : h.check id [k] with
      | error e => rfl
      | ok u => rw [hcheck.mp hk] at hforbids; cases hforbids
  rw [repair]
  cases hcheck : h.check id v.keywords with
  | error e => simp only [validKeywords, hvalid, CatalogVariant.cleaned]
  | ok u =>
    rw [CatalogVariant.cleaned_eq_self_iff.mpr ((Host.check_eq_ok_iff hs v.keywords).mp hcheck)]

/-- What an entry lists: the variants of a known shader, as far as the host allows them. -/
def entryListings (h : Host) (entry : CatalogShader) : List Listing :=
  match h.find? entry.shader with
  | none => []
  | some id => entry.variants.map fun v => (entry.shader, v.cleaned h id)

/-- What catalogs list, in order. -/
def catalogListings (h : Host) (catalogs : List Catalog) : List Listing :=
  (catalogs.flatMap (·.shaders)).flatMap (entryListings h)

/-! ### Merging -/

namespace Merging

variable {m : Merging} {ls : List Listing}

theorem Holds.addVariant (hm : m.Holds ls) {h : Host} {id : ShaderId} {s : Shader}
    (hs : h.shader? id = some s) (name : String) (v : CatalogVariant) :
    (m.addVariant h id name v).value.Holds (ls ++ [(name, v.cleaned h id)]) := by
  rw [← repair_eq hs, Merging.addVariant]
  obtain ⟨w, fault⟩ := repair h id v
  cases fault with
  | none => exact hm.push (name, w)
  | some fault =>
    have hcounted : Holds { m with repaired := m.repaired + 1 } ls :=
      ⟨hm.catalog, hm.seen, hm.positions⟩
    exact hcounted.push (name, w)

theorem Holds.addEntry (hm : m.Holds ls) (h : Host) (entry : CatalogShader) :
    (m.addEntry h entry).value.Holds (ls ++ entryListings h entry) := by
  rw [Merging.addEntry, entryListings]
  cases hid : h.find? entry.shader with
  | none =>
    rw [List.append_nil]
    exact hm
  | some id =>
    obtain ⟨s, hs, -⟩ := Host.shader?_of_find? hid
    simp only [Logged.value_foldlM]
    -- The variants are merged one by one, each into what the ones before it have led to.
    generalize entry.variants = vs
    induction vs generalizing m ls with
    | nil =>
      rw [List.map_nil, List.append_nil]
      exact hm
    | cons v vs ih =>
      rw [List.foldl_cons, List.map_cons, List.append_cons]
      exact ih (hm.addVariant hs entry.shader v)

/-- **The loop of merging** takes the listings of the entries, one after the other. -/
theorem Holds.addEntries (hm : m.Holds ls) (h : Host) (entries : List CatalogShader) :
    (entries.foldl (fun m entry => (m.addEntry h entry).value) m).Holds
      (ls ++ entries.flatMap (entryListings h)) := by
  induction entries generalizing m ls with
  | nil =>
    rw [List.flatMap_nil, List.append_nil]
    exact hm
  | cons entry entries ih =>
    rw [List.foldl_cons, List.flatMap_cons, ← List.append_assoc]
    exact ih (hm.addEntry h entry)

end Merging

/-- **What merging leads to.** -/
theorem value_merge (h : Host) (catalogs : List Catalog) :
    (merge h catalogs).value = gathered (catalogListings h catalogs) := by
  rw [merge]
  simp only [Logged.value_bind, Logged.value_pure, Logged.value_foldlM]
  exact (Merging.holds_nil.addEntries h (catalogs.flatMap (·.shaders))).catalog

/-! ### Merging what has been merged -/

theorem mem_of_mem_listings_gathered {ls : List Listing} {l : Listing}
    (hl : l ∈ (gathered ls).listings) : l ∈ ls := by
  obtain ⟨s, hs, hl⟩ := List.mem_flatMap.mp hl
  obtain ⟨v, hv, rfl⟩ := List.mem_map.mp hl
  obtain ⟨name, -, rfl⟩ := List.mem_map.mp hs
  obtain ⟨m, hm, rfl⟩ := List.mem_map.mp (mem_of_mem_firstsBy CatalogVariant.identity hv)
  obtain ⟨hmem, hname⟩ := List.mem_filter.mp hm
  rw [← of_decide_eq_true hname]
  exact hmem

/-- Merging takes nothing away from a listing: its shader is known, and all its keywords are
allowed. -/
def Settled (h : Host) (l : Listing) : Prop :=
  ∃ id, h.find? l.1 = some id ∧ l.2.cleaned h id = l.2

theorem settled_of_mem_catalogListings {h : Host} {catalogs : List Catalog} {l : Listing}
    (hl : l ∈ catalogListings h catalogs) : Settled h l := by
  obtain ⟨entry, -, hl⟩ := List.mem_flatMap.mp hl
  rw [entryListings] at hl
  cases hid : h.find? entry.shader with
  | none =>
    rw [hid] at hl
    cases hl
  | some id =>
    rw [hid] at hl
    obtain ⟨v, -, rfl⟩ := List.mem_map.mp hl
    exact ⟨id, hid, v.cleaned_cleaned h id⟩

/-- A catalog of settled listings is merged as it is. -/
theorem catalogListings_of_settled {h : Host} {c : Catalog}
    (hc : ∀ l ∈ c.listings, Settled h l) : catalogListings h [c] = c.listings := by
  rw [catalogListings, listings, List.flatMap_singleton]
  refine List.flatMap_congr fun entry hentry => ?_
  have hsettled : ∀ v ∈ entry.variants, Settled h (entry.shader, v) := fun v hv =>
    hc _ (List.mem_flatMap.mpr ⟨entry, hentry, List.mem_map_of_mem hv⟩)
  rw [entryListings]
  cases hid : h.find? entry.shader with
  | none =>
    -- The entry is dropped, but there was nothing in it.
    cases hvs : entry.variants with
    | nil => rfl
    | cons v vs =>
      obtain ⟨id, hid', -⟩ := hsettled v (by rw [hvs]; exact List.mem_cons_self)
      rw [hid] at hid'
      cases hid'
  | some id =>
    refine List.map_congr_left fun v hv => ?_
    obtain ⟨id', hid', hclean⟩ := hsettled v hv
    rw [Option.some.inj (hid.symm.trans hid'), hclean]

theorem settled_of_mem_listings_merge {h : Host} {catalogs : List Catalog} {l : Listing}
    (hl : l ∈ (merge h catalogs).value.listings) : Settled h l := by
  rw [value_merge] at hl
  exact settled_of_mem_catalogListings (mem_of_mem_listings_gathered hl)

theorem catalogListings_merge (h : Host) (catalogs : List Catalog) :
    catalogListings h [(merge h catalogs).value] = (merge h catalogs).value.listings :=
  catalogListings_of_settled fun _ => settled_of_mem_listings_merge

theorem alike_listings_merge (h : Host) (catalogs : List Catalog) :
    Alike (merge h catalogs).value.listings (catalogListings h catalogs) := by
  rw [value_merge]
  exact alike_listings_gathered _

theorem catalogListings_append (h : Host) (cs ds : List Catalog) :
    catalogListings h (cs ++ ds) = catalogListings h cs ++ catalogListings h ds := by
  rw [catalogListings, List.flatMap_append, List.flatMap_append]
  rfl

theorem catalogListings_cons (h : Host) (c : Catalog) (ds : List Catalog) :
    catalogListings h (c :: ds) = c.shaders.flatMap (entryListings h) ++ catalogListings h ds := by
  rw [catalogListings, List.flatMap_cons, List.flatMap_append]
  rfl

/-- **Catalogs may be merged in parts.**  Merging what has been merged of two parts is merging all
of it, in the same order and with the same keywords; what has been merged stays as it is; and
neither empty catalogs nor entries of unknown shaders matter, wherever they stand. -/
theorem merge_append (h : Host) (cs ds : List Catalog) :
    (merge h (cs ++ ds)).value = (merge h [(merge h cs).value, (merge h ds).value]).value ∧
    (merge h [(merge h cs).value]).value = (merge h cs).value ∧
    (merge h (cs ++ {} :: ds)).value = (merge h (cs ++ ds)).value ∧
    ∀ (before after : List CatalogShader) (entry : CatalogShader), h.find? entry.shader = none →
      (merge h (cs ++ ⟨before ++ entry :: after⟩ :: ds)).value =
        (merge h (cs ++ ⟨before ++ after⟩ :: ds)).value := by
  refine ⟨?_, ?_, ?_, fun before after entry hunknown => ?_⟩
  · have hparts : catalogListings h [(merge h cs).value, (merge h ds).value] =
        (merge h cs).value.listings ++ (merge h ds).value.listings := by
      rw [← List.singleton_append, catalogListings_append, catalogListings_merge,
        catalogListings_merge]
    rw [value_merge h (cs ++ ds), value_merge h [_, _], hparts, catalogListings_append]
    exact ((alike_listings_merge h cs).append (alike_listings_merge h ds)).gathered.symm
  · rw [value_merge h [_], catalogListings_merge, value_merge]
    exact (alike_listings_gathered _).gathered
  · rw [value_merge, value_merge, catalogListings_append, catalogListings_append,
      catalogListings_cons]
    rfl
  · have hdropped : entryListings h entry = [] := by rw [entryListings, hunknown]
    simp only [value_merge, catalogListings_append, catalogListings_cons, List.flatMap_append,
      List.flatMap_cons, hdropped, List.nil_append]

/-- Two shaders, one of which must not be compiled with an old keyword. -/
def lagoonHost : Host :=
  .ofList [{ name := "Lagoon", invalidKeywords := .ofList ["OLD"] }, { name := "Spray" }]

/-- An entry of a shader that the host does not know, between entries that become the same when the
old keyword is taken away. -/
theorem merge_append_lagoon :
    lagoonHost.find? "Gone" = none ∧
      (merge lagoonHost ([⟨[⟨"Spray", [⟨.normal, []⟩]⟩]⟩] ++
        ⟨[⟨"Lagoon", [⟨.normal, ["B", "OLD", "A"]⟩]⟩] ++ ⟨"Gone", [⟨.normal, ["A"]⟩]⟩ ::
          [⟨"Lagoon", [⟨.normal, ["A", "B"]⟩, ⟨.deferred, ["A", "B"]⟩]⟩]⟩ :: [])).value =
        ⟨[⟨"Spray", [⟨.normal, []⟩]⟩,
          ⟨"Lagoon", [⟨.normal, ["B", "A"]⟩, ⟨.deferred, ["A", "B"]⟩]⟩]⟩ := by
  have hunknown : lagoonHost.find? "Gone" = none := by decide +kernel
  refine ⟨hunknown, ((merge_append lagoonHost _ _).2.2.2 _ _ _ hunknown).trans ?_⟩
  rw [value_merge]
  decide +kernel

end Catalog

end VariantStrip
