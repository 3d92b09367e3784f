/-
Taking work items from a recorded build and putting them back.

Work items remember the places of their passes.  Putting back what has been taken restores the build
(`Manifest.restoreWork_takeWork`), and taking commutes with filtering the variants
(`Manifest.takeWork_filterVariants`).  So putting back items that have been filtered filters the
variants of the build, and changes nothing else (`Manifest.restoreWork_filter`).
-/
import VariantStrip.Manifest.Basic
import VariantStrip.Proofs.Host

namespace VariantStrip

theorem modify_append_cons {α : Type} (done : List α) (x : α) (rest : List α) (f : α → α) :
    (done ++ x :: rest).modify done.length f = done ++ f x :: rest := by
  induction done with
  | nil => rfl
  | cons y done ih => rw [List.cons_append, List.length_cons, List.modify_succ_cons, ih]; rfl

/-- A recorded pass as the build presents it. -/
def ManifestPass.snippet (p : ManifestPass) : Snippet := ⟨p.passType, p.passName⟩

/-- A work item with the candidates that are to be kept. -/
def PassWork.filter (keep : ShaderId → Snippet → Candidate → Bool) (w : PassWork) : PassWork :=
  { w with candidates := w.candidates.filter (keep w.shader w.snippet) }

namespace Manifest

/-- The number of passes. -/
def passCount (m : Manifest) : Nat := (m.shaders.flatMap (·.passes)).length

/-- A recorded build with the variants that are to be kept: each list of variants is filtered, and
all else stays as it is. -/
def filterVariants (m : Manifest) (keep : ManifestShader → ManifestPass → Candidate → Bool) :
    Manifest :=
  ⟨m.shaders.map fun s =>
    { s with passes := s.passes.map fun p => { p with variants := p.variants.filter (keep s p) } }⟩

/-! ### Handles -/

theorem registerAll_eq (h : Host) (ss : List Shader) :
    registerAll h ss = ss.map fun s => (ss.foldl Host.add h).handleOf s.name := by
  induction ss generalizing h with
  | nil => rfl
  | cons s ss ih =>
    -- The handle that `s` gets now is the one it has at the end.
    rw [registerAll, ih, List.map_cons, List.foldl_cons,
      Host.handleOf_foldl_add (h.mem_names_add s), h.handleOf_add]

/-- A recorded shader has the handle under which the host knows its name. -/
theorem handles_eq (m : Manifest) : m.handles = m.shaders.map fun s => m.host.handleOf s.name := by
  rw [handles, registerAll_eq, List.map_map]
  rfl

/-! ### Putting back what has been taken -/

/-- A shader whose variants have been taken. -/
def emptied (s : ManifestShader) : ManifestShader :=
  { s with passes := s.passes.map fun p => { p with variants := [] } }

/-- The passes of one shader are put back one after the other. -/
theorem restoreWork_passWork (before after : List ManifestShader) (s : ManifestShader)
    (handle : ShaderId) (done ps : List ManifestPass) :
    restoreWork
        ⟨before ++ { s with passes := done ++ ps.map fun p => { p with variants := [] } } :: after⟩
        (passWork handle before.length done.length ps) =
      ⟨before ++ { s with passes := done ++ ps } :: after⟩ := by
  induction ps generalizing done with
  | nil => rfl
  | cons p ps ih =>
    -- `done` has been put back, so its length is the index of the item for `p`.
    have hrest := ih (done ++ [p])
    simp only [List.append_assoc, List.length_append, List.cons_append, List.nil_append,
      List.length_cons, List.length_nil, Nat.zero_add] at hrest
    rw [← hrest]
    simp only [restoreWork, passWork, List.foldl_cons, restoreItem, List.map_cons,
      modify_append_cons]

/-- The shaders get their passes back one after the other. -/
theorem restoreWork_shaderWork (before shaders : List ManifestShader) (handles : List ShaderId)
    (hlength : handles.length = shaders.length) :
    restoreWork ⟨before ++ shaders.map emptied⟩ (shaderWork before.length shaders handles) =
      ⟨before ++ shaders⟩ := by
  induction shaders generalizing before handles with
  | nil => rfl
  | cons s shaders ih =>
    obtain _ | ⟨handle, handles⟩ := handles
    · cases hlength
    · -- First `s` gets its passes, then it belongs to the shaders in front.
      have hpasses := restoreWork_passWork before (shaders.map emptied) s handle [] s.passes
      have hrest := ih (before ++ [s]) handles (Nat.succ.inj hlength)
      simp only [List.append_assoc, List.length_append, List.cons_append, List.nil_append,
        List.length_cons, List.length_nil, Nat.zero_add] at hrest hpasses
      rw [← hrest, shaderWork, restoreWork, List.foldl_append, ← restoreWork, ← restoreWork,
        ← hpasses]
      rfl

/-- **Putting back what has been taken** restores the build. -/
theorem restoreWork_takeWork (m : Manifest) : m.takeWork.2.restoreWork m.takeWork.1 = m := by
  refine restoreWork_shaderWork [] m.shaders m.handles ?_
  rw [handles_eq, List.length_map]

/-! ### Filtering -/

theorem map_filter_passWork (keep : ShaderId → Snippet → Candidate → Bool) (handle : ShaderId)
    (i k : Nat) (ps : List ManifestPass) :
    (passWork handle i k ps).map (PassWork.filter keep) =
      passWork handle i k
        (ps.map fun p => { p with variants := p.variants.filter (keep handle p.snippet) }) := by
  induction ps generalizing k with
  | nil => rfl
  | cons p ps ih =>
    rw [passWork, List.map_cons, ih]
    rfl

theorem map_filter_shaderWork (keep : ShaderId → Snippet → Candidate → Bool)
    (handleOf : ManifestShader → ShaderId) (i : Nat) (shaders : List ManifestShader) :
    (shaderWork i shaders (shaders.map handleOf)).map (PassWork.filter keep) =
      shaderWork i
        (shaders.map fun s =>
          { s with
            passes := s.passes.map fun p =>
              { p with variants := p.variants.filter (keep (handleOf s) p.snippet) } })
        (shaders.map handleOf) := by
  induction shaders generalizing i with
  | nil => rfl
  | cons s shaders ih =>
    simp only [List.map_cons, shaderWork, List.map_append, map_filter_passWork, ih]

/-- **Taking commutes with filtering.** -/
theorem takeWork_filterVariants (m : Manifest) (keep : ShaderId → Snippet → Candidate → Bool) :
    (m.filterVariants fun s p => keep (m.host.handleOf s.name) p.snippet).takeWork =
      (m.takeWork.1.map (PassWork.filter keep), m.takeWork.2) := by
  have hhandles (keep : ManifestShader → ManifestPass → Candidate → Bool) :
      (m.filterVariants keep).handles = m.handles := by
    rw [handles, handles, filterVariants, List.map_map]
    rfl
  rw [takeWork, takeWork, hhandles, handles_eq, map_filter_shaderWork]
  simp only [filterVariants, List.map_map, Function.comp_def]

/-- Putting back items that have been filtered filters the variants of the build. -/
theorem restoreWork_filter (m : Manifest) (keep : ShaderId → Snippet → Candidate → Bool) :
    m.takeWork.2.restoreWork (m.takeWork.1.map (PassWork.filter keep)) =
      m.filterVariants fun s p => keep (m.host.handleOf s.name) p.snippet := by
  have hrestore := restoreWork_takeWork
    (m.filterVariants fun s p => keep (m.host.handleOf s.name) p.snippet)
  rw [takeWork_filterVariants] at hrestore
  exact hrestore

/-! ### Counting -/

theorem map_candidates_passWork (handle : ShaderId) (i k : Nat) (ps : List ManifestPass) :
    (passWork handle i k ps).map (·.candidates) = ps.map (·.variants) := by
  induction ps generalizing k with
  | nil => rfl
  | cons p ps ih => rw [passWork, List.map_cons, ih, List.map_cons]

theorem map_candidates_shaderWork (handleOf : ManifestShader → ShaderId) (i : Nat)
    (shaders : List ManifestShader) :
    (shaderWork i shaders (shaders.map handleOf)).map (·.candidates) =
      (shaders.flatMap (·.passes)).map (·.variants) := by
  induction shaders generalizing i with
  | nil => rfl
  | cons s shaders ih =>
    rw [List.map_cons, shaderWork, List.map_append, map_candidates_passWork, ih,
      List.flatMap_cons, List.map_append]

/-- The work items hold the variants of the passes, in order. -/
theorem map_candidates_takeWork (m : Manifest) :
    m.takeWork.1.map (·.candidates) = (m.shaders.flatMap (·.passes)).map (·.variants) := by
  rw [takeWork, handles_eq, map_candidates_shaderWork]

theorem length_takeWork (m : Manifest) : m.takeWork.1.length = m.passCount := by
  have hlength := congrArg List.length m.map_candidates_takeWork
  rwa [List.length_map, List.length_map] at hlength

theorem length_candidates_takeWork (m : Manifest) :
    (m.takeWork.1.flatMap (·.candidates)).length = m.variantCount := by
  rw [List.flatMap_def, map_candidates_takeWork, ← List.flatMap_def]
  rfl

end Manifest

end VariantStrip
