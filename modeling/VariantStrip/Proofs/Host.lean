/-
The names that a host knows.

A host is a table of names without repetitions (`Host.names`), and the handle of a name is its place
in the table: looking a name up (`find?_eq`), the handle it gets (`handleOf_eq`) and registering a
shader (`names_add`) say no more about names than that.  Since tables only grow at their end, a
handle stays what it is (`handleOf_foldl_add`).
-/
import VariantStrip.Host
import VariantStrip.Proofs.FirstSeen

namespace VariantStrip.Host

/-- The names of the shaders, by handle. -/
def names (h : Host) : List String := h.shaders.map (·.name)

theorem find?_eq (h : Host) (name : String) :
    h.find? name = if name ∈ h.names then some ⟨h.names.idxOf name⟩ else none := by
  rw [find?, findIdx?_key, names]
  by_cases hname : name ∈ h.shaders.map (·.name)
  · simp only [if_pos hname, Option.map_some]
  · simp only [if_neg hname, Option.map_none]

/-- A handle that is found leads to a definition of the name. -/
theorem shader?_of_find? {h : Host} {name : String} {id : ShaderId}
    (hid : h.find? name = some id) : ∃ s, h.shader? id = some s ∧ s.name = name := by
  obtain ⟨i, hi, rfl⟩ := Option.map_eq_some_iff.mp hid
  obtain ⟨hlt, hname, -⟩ := List.findIdx?_eq_some_iff_getElem.mp hi
  exact ⟨_, List.getElem?_eq_getElem hlt, beq_iff_eq.mp hname⟩

/-- Different names have different handles. -/
theorem eq_of_find? {h : Host} {name name' : String} {id : ShaderId}
    (hid : h.find? name = some id) (hid' : h.find? name' = some id) : name = name' := by
  obtain ⟨s, hs, rfl⟩ := shader?_of_find? hid
  obtain ⟨s', hs', rfl⟩ := shader?_of_find? hid'
  rw [Option.some.inj (hs.symm.trans hs')]

/-- The next handle belongs to the next name, as if it were there already. -/
theorem handleOf_eq (h : Host) (name : String) : h.handleOf name = ⟨h.names.idxOf name⟩ := by
  rw [handleOf, find?_eq]
  by_cases hname : name ∈ h.names
  · rw [if_pos hname, Option.getD_some]
  · rw [if_neg hname, Option.getD_none, List.idxOf_eq_length hname, names, List.length_map]

theorem handleOf_of_find? {h : Host} {name : String} {id : ShaderId}
    (hid : h.find? name = some id) : h.handleOf name = id := by
  rw [handleOf, hid, Option.getD_some]

/-- A name that is registered again keeps its place. -/
theorem names_add (h : Host) (s : Shader) :
    (h.add s).names = if s.name ∈ h.names then h.names else h.names ++ [s.name] := by
  rw [add, find?_eq]
  by_cases hname : s.name ∈ h.names
  · -- The definition is replaced at the place of its own name.
    have hlt := List.idxOf_lt_length_iff.mpr hname
    have hself := List.set_getElem_self hlt
    rw [List.getElem_idxOf hlt] at hself
    simp only [if_pos hname]
    rw [names, List.map_set]
    exact hself
  · simp only [if_neg hname]
    simp [names]

theorem mem_names_add (h : Host) (s : Shader) : s.name ∈ (h.add s).names := by
  rw [names_add]
  by_cases hname : s.name ∈ h.names
  · rwa [if_pos hname]
  · rw [if_neg hname]
    exact List.mem_append_right _ (List.mem_singleton_self _)

/-- Tables grow at their end. -/
theorem names_prefix_foldl_add (h : Host) (ss : List Shader) :
    h.names <+: (ss.foldl add h).names := by
  induction ss generalizing h with
  | nil => exact List.prefix_refl _
  | cons s ss ih =>
    have hgrown : h.names <+: (h.add s).names := by
      rw [names_add]
      split
      · exact List.prefix_refl _
      · exact List.prefix_append _ _
    exact hgrown.trans (ih (h.add s))

/-- **Handles stay.**  Registering shaders does not change the handle of a name that is known. -/
theorem handleOf_foldl_add {h : Host} {name : String} (hname : name ∈ h.names)
    (ss : List Shader) : (ss.foldl add h).handleOf name = h.handleOf name := by
  obtain ⟨rest, hrest⟩ := h.names_prefix_foldl_add ss
  rw [handleOf_eq, handleOf_eq, ← hrest, List.idxOf_append_of_mem hname]

/-- A shader that is registered has the handle that was promised. -/
theorem handleOf_add (h : Host) (s : Shader) : (h.add s).handleOf s.name = h.handleOf s.name := by
  rw [handleOf_eq, handleOf_eq, names_add]
  by_cases hname : s.name ∈ h.names
  · rw [if_pos hname]
  · rw [if_neg hname, List.idxOf_append, if_neg hname, List.idxOf_eq_length hname]
    simp

end VariantStrip.Host
