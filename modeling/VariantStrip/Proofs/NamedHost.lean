/-
Names and handles of a host.

Names and handles determine each other, and the last definition of a name is the one that counts.
For a host without a table of names this is said by a few lemmas, each of which follows the
registered shaders from the first to the last:

* `Host.names_ofList` — the names, in the order in which they were first seen,
* `Host.definition?_ofList` — the definition that is served under a name,
* `Host.find?_eq_some_iff` — handles are found under their own names.

The table of a host with one is exact if it finds what a search finds (`NamedHost.Exact`), and stays
so while there are less than 2³² shaders (`NamedHost.Exact.exists_addAll`).  In a recorded build the
passes of a name that is repeated belong to its last definition: a build in which every definition
is replaced by the last one of its name (`Manifest.redefined`) has the same host and the same work.
The main result is `names_and_handles_agree`.
-/
import VariantStrip.Host.Named
import VariantStrip.Proofs.Manifest
import VariantStrip.Proofs.StringSet

namespace VariantStrip

/-! ### Registered shaders -/

namespace Host

variable {h h' : Host} {name : String} {id : ShaderId}

theorem names_ofList (ss : List Shader) :
    (ofList ss).names = (ss.map (·.name)).eraseDups := by
  induction ss using List.reverseRecOn with
  | nil => rfl
  | append_singleton ss s ih =>
    rw [ofList, List.foldl_append, ← ofList, List.foldl_cons, List.foldl_nil, names_add, ih,
      List.map_append, List.map_singleton, eraseDups_concat]
    simp only [List.mem_eraseDups]

theorem mem_names_ofList {ss : List Shader} :
    name ∈ (ofList ss).names ↔ ∃ s ∈ ss, s.name = name := by
  rw [names_ofList, List.mem_eraseDups, List.mem_map]

theorem nodup_names_ofList (ss : List Shader) : (ofList ss).names.Nodup := by
  rw [names_ofList]
  exact nodup_eraseDups _

/-- Only the handle of the registered name may change. -/
theorem find?_add (h : Host) (s : Shader) (name : String) :
    (h.add s).find? name = if name = s.name then some (h.handleOf s.name) else h.find? name := by
  by_cases hname : name = s.name
  · rw [if_pos hname, hname, ← handleOf_add, find?_eq, if_pos (h.mem_names_add s), handleOf_eq]
  · rw [if_neg hname, find?_eq, find?_eq, names_add]
    by_cases hseen : s.name ∈ h.names
    · simp only [if_pos hseen]
    · -- The new name comes last, so the other ones keep their places.
      simp only [if_neg hseen, List.mem_append, List.mem_singleton, hname, or_false]
      by_cases hmem : name ∈ h.names
      · rw [if_pos hmem, if_pos hmem, List.idxOf_append_of_mem hmem]
      · rw [if_neg hmem, if_neg hmem]

/-- The definition that is served under a name. -/
def definition? (h : Host) (name : String) : Option Shader := (h.find? name).bind h.shader?

theorem definition?_eq (h : Host) (name : String) :
    h.definition? name = h.shaders[h.names.idxOf name]? := by
  rw [definition?, find?_eq]
  by_cases hname : name ∈ h.names
  · rw [if_pos hname]
    rfl
  · have hlength : h.names.idxOf name = h.shaders.length := by
      rw [List.idxOf_eq_length hname, names, List.length_map]
    rw [if_neg hname, hlength, List.getElem?_eq_none (Nat.le_refl _)]
    rfl

theorem lt_size_of_find? (hid : h.find? name = some id) : id.index < h.shaders.length := by
  obtain ⟨s, hs, -⟩ := shader?_of_find? hid
  exact (List.getElem?_eq_some_iff.mp hs).1

/-- The handle of the registered name leads to the new definition. -/
theorem shader?_add_self (h : Host) (s : Shader) :
    (h.add s).shader? (h.handleOf s.name) = some s := by
  rw [add, handleOf]
  cases hid : h.find? s.name with
  | none => exact List.getElem?_concat_length
  | some id => exact List.getElem?_set_self (lt_size_of_find? hid)

/-- The handles of other names lead to what they have led to. -/
theorem shader?_add_of_ne {s : Shader} (hname : name ≠ s.name) (hid : h.find? name = some id) :
    (h.add s).shader? id = h.shader? id := by
  rw [add]
  cases hid' : h.find? s.name with
  | none => exact List.getElem?_append_left (lt_size_of_find? hid)
  | some id' =>
    have hne : id'.index ≠ id.index := by
      intro heq
      have hsame : id' = id := congrArg ShaderId.mk heq
      exact hname (eq_of_find? hid (hsame ▸ hid'))
    exact List.getElem?_set_ne hne

/-- Registering a shader defines its name, and leaves the other names alone. -/
theorem definition?_add (h : Host) (s : Shader) (name : String) :
    (h.add s).definition? name = if name = s.name then some s else h.definition? name := by
  rw [definition?, definition?, find?_add]
  by_cases hname : name = s.name
  · rw [if_pos hname, if_pos hname]
    exact h.shader?_add_self s
  · rw [if_neg hname, if_neg hname]
    cases hid : h.find? name with
    | none => rfl
    | some id => exact shader?_add_of_ne hname hid

/-- The last of some shaders with a name. -/
def lastNamed? (ss : List Shader) (name : String) : Option Shader :=
  ss.reverse.find? (·.name == name)

/-- **The last definition of a name** is served. -/
theorem definition?_ofList (ss : List Shader) (name : String) :
    (ofList ss).definition? name = lastNamed? ss name := by
  induction ss using List.reverseRecOn with
  | nil => rfl
  | append_singleton ss s ih =>
    rw [ofList, List.foldl_append, ← ofList, List.foldl_cons, List.foldl_nil, definition?_add, ih,
      lastNamed?, lastNamed?, List.reverse_append, List.reverse_singleton, List.singleton_append,
      List.find?_cons]
    by_cases hname : name = s.name
    · rw [if_pos hname, hname, beq_self_eq_true]
    · rw [if_neg hname, beq_eq_false_iff_ne.mpr (Ne.symm hname)]

/-! ### Names and handles -/

/-- The name under a handle is that of its place. -/
theorem nameOf_eq (h : Host) (id : ShaderId) : h.nameOf id = (h.names[id.index]?).getD "" := by
  rw [nameOf, shader?, names, List.getElem?_map]

theorem size_eq (h : Host) : h.size = h.names.length := (List.length_map _).symm

/-- **Handles are found under their own names.** -/
theorem find?_eq_some_iff (hnames : h.names.Nodup) :
    h.find? name = some id ↔ id.index < h.size ∧ h.nameOf id = name := by
  rw [find?_eq, size_eq, nameOf_eq]
  constructor
  · intro hid
    by_cases hname : name ∈ h.names
    · rw [if_pos hname, Option.some.injEq] at hid
      rw [← hid, List.getElem?_idxOf hname]
      exact ⟨List.idxOf_lt_length_iff.mpr hname, rfl⟩
    · rw [if_neg hname] at hid
      cases hid
  · rintro ⟨hlt, rfl⟩
    rw [List.getElem?_eq_getElem hlt, Option.getD_some, if_pos (List.getElem_mem hlt),
      hnames.idxOf_getElem]

/-- The handles of registered shaders are found under their names. -/
theorem find?_ofList {ss : List Shader} {s : Shader} (hs : s ∈ ss) :
    (ofList ss).find? s.name = some ((ofList ss).handleOf s.name) := by
  rw [find?_eq, if_pos (mem_names_ofList.mpr ⟨s, hs, rfl⟩), handleOf_eq]

/-- Handles keep their names. -/
theorem nameOf_foldl_add (hlt : id.index < h.size) (ss : List Shader) :
    (ss.foldl add h).nameOf id = h.nameOf id := by
  obtain ⟨rest, hrest⟩ := h.names_prefix_foldl_add ss
  rw [size_eq] at hlt
  rw [nameOf_eq, nameOf_eq, ← hrest, List.getElem?_append_left hlt]

theorem size_add_le (h : Host) (s : Shader) : (h.add s).size ≤ h.size + 1 := by
  rw [size_eq, size_eq, names_add]
  split
  · exact Nat.le_succ _
  · rw [List.length_append, List.length_singleton]

theorem size_ofList_le (ss : List Shader) : (ofList ss).size ≤ ss.length := by
  induction ss using List.reverseRecOn with
  | nil => exact Nat.le_refl 0
  | append_singleton ss s ih =>
    have hadd := (ofList ss).size_add_le s
    rw [List.length_append, List.length_singleton, ofList, List.foldl_append, ← ofList]
    exact hadd.trans (Nat.succ_le_succ ih)

/-- What is served under a handle is a definition. -/
structure Serves (h : Host) (id : ShaderId) (s : Shader) : Prop where
  name : h.nameOf id = s.name
  path : h.pathOf? id = s.path
  alwaysIncluded : h.isAlwaysIncluded id = s.alwaysIncluded
  localKeywords : ∀ k, h.isLocal id k = true ↔ k ∈ s.localKeywords
  invalidKeywords : ∀ ks fault, h.check id ks = .error fault ↔
    ∃ k, ks.find? s.invalidKeywords.contains = some k ∧ fault = .invalidKeyword k s.name

theorem serves_of_shader? {s : Shader} (hs : h.shader? id = some s) : h.Serves id s where
  name := by rw [nameOf, hs, Option.map_some, Option.getD_some]
  path := by rw [pathOf?, hs, Option.bind_some]
  alwaysIncluded := by rw [isAlwaysIncluded, hs, Option.any_some]
  localKeywords k := by rw [isLocal, hs, Option.any_some, StringSet.contains_iff]
  invalidKeywords ks fault := by
    simp only [check, hs]
    cases ks.find? s.invalidKeywords.contains with
    | none => simp
    | some k => simp [eq_comm]

theorem serves_of_find? {ss : List Shader} (hid : (ofList ss).find? name = some id) :
    ∃ s, lastNamed? ss name = some s ∧ (ofList ss).Serves id s := by
  obtain ⟨s, hs, -⟩ := shader?_of_find? hid
  refine ⟨s, ?_, serves_of_shader? hs⟩
  rw [← definition?_ofList, definition?, hid, Option.bind_some, hs]

/-- Hosts that know the same names in the same order, and serve the same definitions, are equal. -/
theorem eq_of_definitions (hnames : h.names.Nodup) (hsame : h.names = h'.names)
    (hdefinition : ∀ name, h.definition? name = h'.definition? name) : h = h' := by
  have hlength : h.shaders.length = h'.shaders.length := by
    have hlengths := congrArg List.length hsame
    rwa [names, names, List.length_map, List.length_map] at hlengths
  have hshaders : h.shaders = h'.shaders := by
    refine List.ext_getElem? fun i => ?_
    by_cases hi : i < h.names.length
    · -- The definition at a place is the one under the name of the place.
      have hplace := hdefinition h.names[i]
      rwa [definition?_eq, definition?_eq, ← hsame, hnames.idxOf_getElem] at hplace
    · rw [names, List.length_map] at hi
      rw [List.getElem?_eq_none (by omega), List.getElem?_eq_none (by omega)]
  cases h
  cases h'
  exact congrArg Host.mk hshaders

end Host

/-! ### Hosts with a table of names -/

namespace NamedHost

variable {h h' : NamedHost}

/-- The table finds what a search of the shaders finds. -/
def Exact (h : NamedHost) : Prop := ∀ name, h.find? name = h.toHost.find? name

theorem exact_empty : ({} : NamedHost).Exact := by
  intro name
  simp [find?, Host.find?]

/-- A table stays exact if it leads from the registered name to its handle, and from the other names
to where it has led before. -/
theorem Exact.of_add {s : Shader} (hexact : h.Exact) (hadd : h'.toHost = h.toHost.add s)
    (hself : h'.find? s.name = some (h.handleOf s.name))
    (hothers : ∀ name, name ≠ s.name → h'.find? name = h.find? name) : h'.Exact := by
  intro name
  rw [hadd, Host.find?_add]
  by_cases hname : name = s.name
  · rw [if_pos hname, hname, hself]
  · rw [if_neg hname, hothers name hname, hexact name]

/-- **Registering a shader** has a result while there is room for handles. -/
theorem Exact.exists_add (hexact : h.Exact) (hroom : h.size < UInt32.size) (s : Shader) :
    ∃ h', h.add? s = some (h.handleOf s.name, h') ∧ h'.toHost = h.toHost.add s ∧ h'.Exact := by
  have hfound : h.byName[s.name]? = h.toHost.find? s.name := hexact s.name
  cases hid : h.toHost.find? s.name with
  | some id =>
    -- The name is known, so its definition is replaced, and the table stays as it is.
    have hlt := Host.lt_size_of_find? hid
    have hhandle : h.handleOf s.name = id := Host.handleOf_of_find? hid
    let replaced : NamedHost := { h with shaders := h.shaders.set id.index s }
    have hadd : replaced.toHost = h.toHost.add s := by rw [Host.add, hid]
    refine ⟨replaced, ?_, hadd, hexact.of_add hadd ?_ fun _ _ => rfl⟩
    · simp only [add?, hfound, hid, if_pos hlt, hhandle, replaced]
    · rw [hhandle, ← hid]
      exact hfound
  | none =>
    -- A new name gets the next handle, and there is room for it.
    have hlt : h.shaders.length < UInt32.size := hroom
    have hhandle : h.handleOf s.name = handleAt h.shaders.length := by
      rw [Host.handleOf, hid, Option.getD_none, handleAt, if_pos hlt]
    let extended : NamedHost := { h with
      shaders := h.shaders ++ [s]
      byName := h.byName.insert s.name (handleAt h.shaders.length) }
    have hadd : extended.toHost = h.toHost.add s := by rw [Host.add, hid]
    refine ⟨extended, ?_, hadd, hexact.of_add hadd ?_ fun name hname => ?_⟩
    · simp only [add?, hfound, hid, hhandle, extended]
    · rw [hhandle]
      exact Std.HashMap.getElem?_insert_self
    · have hne : (s.name == name) = false := beq_eq_false_iff_ne.mpr (Ne.symm hname)
      rw [find?, Std.HashMap.getElem?_insert, hne]
      rfl

/-- **Registering shaders** has a result while there is room for handles. -/
theorem Exact.exists_addAll {ss : List Shader} (hexact : h.Exact)
    (hroom : h.size + ss.length ≤ UInt32.size) :
    ∃ h', h.addAll? ss = some (Manifest.registerAll h.toHost ss, h') ∧
      h'.toHost = ss.foldl Host.add h.toHost ∧ h'.Exact := by
  induction ss generalizing h with
  | nil => exact ⟨h, rfl, rfl, hexact⟩
  | cons s ss ih =>
    rw [List.length_cons] at hroom
    obtain ⟨grown, hgrown, htoHost, hexactGrown⟩ := hexact.exists_add (by omega) s
    -- One more handle may have been taken, and there is one shader less to come.
    have hsize := h.toHost.size_add_le s
    rw [← htoHost] at hsize
    obtain ⟨h', haddAll, hall, hexact'⟩ := ih hexactGrown (by omega)
    refine ⟨h', ?_, ?_, hexact'⟩
    · rw [addAll?, hgrown]
      simp only [Option.bind_eq_bind, Option.bind_some, haddAll, htoHost, Manifest.registerAll]
      rfl
    · rw [hall, htoHost, List.foldl_cons]

end NamedHost

/-! ### Recorded builds -/

namespace Manifest

variable {m : Manifest}

theorem registerAll_empty (ss : List Shader) :
    registerAll {} ss = ss.map fun s => (Host.ofList ss).handleOf s.name :=
  registerAll_eq {} ss

/-- The handles of registered shaders are the places in the table. -/
theorem mem_registerAll_iff {ss : List Shader} {id : ShaderId} :
    id ∈ registerAll {} ss ↔ id.index < (Host.ofList ss).size := by
  have hnames := Host.nodup_names_ofList ss
  rw [registerAll_empty, List.mem_map]
  constructor
  · rintro ⟨s, hs, rfl⟩
    exact ((Host.find?_eq_some_iff hnames).mp (Host.find?_ofList hs)).1
  · intro hlt
    rw [Host.size_eq] at hlt
    -- The name at this place has been registered.
    obtain ⟨s, hs, hname⟩ := Host.mem_names_ofList.mp (List.getElem_mem hlt)
    refine ⟨s, hs, ?_⟩
    rw [Host.handleOf_eq, hname, hnames.idxOf_getElem]

/-- The last definition of a name. -/
def lastNamed? (m : Manifest) (name : String) : Option ManifestShader :=
  m.shaders.reverse.find? (·.name == name)

theorem lastNamed?_shaders (m : Manifest) (name : String) :
    Host.lastNamed? (m.shaders.map (·.shader)) name = (m.lastNamed? name).map (·.shader) := by
  rw [Host.lastNamed?, ← List.map_reverse, List.find?_map]
  rfl

theorem name_of_lastNamed? {name : String} {last : ManifestShader}
    (hlast : m.lastNamed? name = some last) : last.name = name := by
  rw [lastNamed?] at hlast
  have hname := List.find?_some hlast
  exact beq_iff_eq.mp hname

/-- A handle serves the last definition of its name. -/
theorem serves_handleOf {s : ManifestShader} (hs : s ∈ m.shaders) :
    ∃ last, m.lastNamed? s.name = some last ∧
      m.host.Serves (m.host.handleOf s.name) last.shader := by
  have hmem : s.shader ∈ m.shaders.map (·.shader) := List.mem_map_of_mem hs
  obtain ⟨definition, hdefinition, hserves⟩ := Host.serves_of_find? (Host.find?_ofList hmem)
  rw [lastNamed?_shaders] at hdefinition
  obtain ⟨last, hlast, rfl⟩ := Option.map_eq_some_iff.mp hdefinition
  exact ⟨last, hlast, hserves⟩

/-- Handles are equal if the names are. -/
theorem handleOf_inj {s s' : ManifestShader} (hs : s ∈ m.shaders) (hs' : s' ∈ m.shaders) :
    m.host.handleOf s.name = m.host.handleOf s'.name ↔ s.name = s'.name := by
  have hfind {s : ManifestShader} (hs : s ∈ m.shaders) :
      m.host.find? s.name = some (m.host.handleOf s.name) :=
    Host.find?_ofList (s := s.shader) (List.mem_map_of_mem hs)
  constructor
  · intro heq
    exact Host.eq_of_find? (hfind hs) (heq ▸ hfind hs')
  · exact congrArg _

/-! ### The work of a recorded build -/

theorem mem_passWork {handle : ShaderId} {i k : Nat} {ps : List ManifestPass} {w : PassWork} :
    w ∈ passWork handle i k ps ↔
      ∃ j p, ps[j]? = some p ∧ w = ⟨handle, i, k + j, p.snippet, p.variants⟩ := by
  induction ps generalizing k with
  | nil => simp [passWork]
  | cons p ps ih =>
    rw [passWork, List.mem_cons, ih]
    constructor
    · rintro (rfl | ⟨j, q, hq, rfl⟩)
      · exact ⟨0, p, rfl, rfl⟩
      · exact ⟨j + 1, q, hq, by rw [Nat.add_right_comm, Nat.add_assoc]⟩
    · rintro ⟨_ | j, q, hq, rfl⟩
      · cases hq
        exact .inl rfl
      · exact .inr ⟨j, q, hq, by rw [Nat.add_right_comm, Nat.add_assoc]⟩

theorem mem_shaderWork {handleOf : ManifestShader → ShaderId} {i : Nat}
    {shaders : List ManifestShader} {w : PassWork} :
    w ∈ shaderWork i shaders (shaders.map handleOf) ↔
      ∃ j s, shaders[j]? = some s ∧ w ∈ passWork (handleOf s) (i + j) 0 s.passes := by
  induction shaders generalizing i with
  | nil => simp [shaderWork]
  | cons s shaders ih =>
    rw [List.map_cons, shaderWork, List.mem_append, ih]
    constructor
    · rintro (hw | ⟨j, t, ht, hw⟩)
      · exact ⟨0, s, rfl, hw⟩
      · exact ⟨j + 1, t, ht, by rwa [Nat.add_right_comm, Nat.add_assoc] at hw⟩
    · rintro ⟨_ | j, t, ht, hw⟩
      · cases ht
        exact .inl hw
      · exact .inr ⟨j, t, ht, by rwa [Nat.add_right_comm, Nat.add_assoc]⟩

/-- **The work items** are the passes with the handles of their shaders. -/
theorem mem_takeWork_iff {w : PassWork} :
    w ∈ m.takeWork.1 ↔ ∃ i s k p, m.shaders[i]? = some s ∧ s.passes[k]? = some p ∧
      w = ⟨m.host.handleOf s.name, i, k, p.snippet, p.variants⟩ := by
  rw [takeWork, handles_eq, mem_shaderWork]
  simp only [mem_passWork, Nat.zero_add]
  constructor
  · rintro ⟨i, s, hs, k, p, hp, rfl⟩
    exact ⟨i, s, k, p, hs, hp, rfl⟩
  · rintro ⟨i, s, k, p, hs, hp, rfl⟩
    exact ⟨i, s, hs, k, p, hp, rfl⟩

/-! ### Repeated definitions -/

/-- The last definition of the name of a shader, with the passes of the shader itself. -/
def redefine (m : Manifest) (s : ManifestShader) : ManifestShader :=
  { (m.lastNamed? s.name).getD s with passes := s.passes }

/-- A recorded build in which each shader has the last definition of its name. -/
def redefined (m : Manifest) : Manifest := ⟨m.shaders.map m.redefine⟩

theorem name_redefine (m : Manifest) (s : ManifestShader) : (m.redefine s).name = s.name := by
  simp only [redefine]
  cases hlast : m.lastNamed? s.name with
  | none => rw [Option.getD_none]
  | some last => rw [Option.getD_some, name_of_lastNamed? hlast]

/-- Last definitions stay as they are. -/
theorem shader_redefine {name : String} {last : ManifestShader}
    (hlast : m.lastNamed? name = some last) : (m.redefine last).shader = last.shader := by
  have hself : m.lastNamed? last.name = some last := by rwa [name_of_lastNamed? hlast]
  rw [redefine, hself]
  rfl

theorem lastNamed?_redefined (m : Manifest) (name : String) :
    m.redefined.lastNamed? name = (m.lastNamed? name).map m.redefine := by
  rw [lastNamed?, redefined, ← List.map_reverse, List.find?_map]
  simp only [Function.comp_def, name_redefine]
  rfl

theorem host_redefined (m : Manifest) : m.redefined.host = m.host := by
  -- Neither the names nor what is served under them has changed.
  refine Host.eq_of_definitions (Host.nodup_names_ofList _) ?_ fun name => ?_
  · rw [host, host, Host.names_ofList, Host.names_ofList]
    simp only [redefined, List.map_map, Function.comp_def, ManifestShader.shader, name_redefine]
  · rw [host, host, Host.definition?_ofList, Host.definition?_ofList, lastNamed?_shaders,
      lastNamed?_shaders, lastNamed?_redefined]
    cases hlast : m.lastNamed? name with
    | none => rfl
    | some last => exact congrArg some (shader_redefine hlast)

/-- The work of shaders depends on their passes only. -/
theorem shaderWork_map {f : ManifestShader → ManifestShader}
    (hpasses : ∀ s, (f s).passes = s.passes) (i : Nat) (shaders : List ManifestShader)
    (handles : List ShaderId) :
    shaderWork i (shaders.map f) handles = shaderWork i shaders handles := by
  induction shaders generalizing i handles with
  | nil => rfl
  | cons s shaders ih =>
    obtain _ | ⟨handle, handles⟩ := handles
    · rfl
    · rw [List.map_cons, shaderWork, shaderWork, hpasses, ih]

theorem takeWork_redefined (m : Manifest) : m.redefined.takeWork.1 = m.takeWork.1 := by
  have hhandles : m.redefined.handles = m.handles := by
    rw [handles_eq, handles_eq, host_redefined, redefined, List.map_map]
    simp only [Function.comp_def, name_redefine]
  rw [takeWork, takeWork, hhandles]
  exact shaderWork_map (f := m.redefine) (fun _ => rfl) 0 m.shaders m.handles

end Manifest

/-! ### Names and handles agree -/

/-- What a host with a table knows after some shaders have been registered, and their handles. -/
structure NamedHost.Registers (h : NamedHost) (ss : List Shader) (ids : List ShaderId) : Prop where
  /-- The shaders are those of a host without a table. -/
  toHost : h.toHost = .ofList ss
  /-- Each shader has got a handle. -/
  length : ids.length = ss.length
  /-- The handles are the numbers below that of the shaders that are known. -/
  handles : ∀ id, id ∈ ids ↔ id.index < h.size
  /-- Handles are found under their own names. -/
  find : ∀ name id, h.find? name = some id ↔ id.index < h.size ∧ h.nameOf id = name
  /-- A handle leads to the name that it was returned for, -/
  resolves : ∀ (i : Nat) (s : Shader), ss[i]? = some s →
    ∃ id, ids[i]? = some id ∧ h.nameOf id = s.name
  /-- also when more shaders have been registered. -/
  stays : ∀ more, (ss ++ more).length < UInt32.size →
    ∃ ids' h', h.addAll? more = some (ids', h') ∧ h'.toHost = .ofList (ss ++ more) ∧
      ∀ id ∈ ids, h'.nameOf id = h.nameOf id
  /-- The last definition of a name is served. -/
  serves : ∀ name id, h.find? name = some id →
    ∃ last, Host.lastNamed? ss name = some last ∧ h.Serves id last

/-- What is known of the shaders and passes of a recorded build by their handles. -/
structure Manifest.Handled (m : Manifest) : Prop where
  length : m.handles.length = m.shaders.length
  /-- Shaders share a handle if they share a name. -/
  eq_iff : ∀ (i j : Nat) (s s' : ManifestShader), m.shaders[i]? = some s → m.shaders[j]? = some s' →
    (m.handles[i]? = m.handles[j]? ↔ s.name = s'.name)
  /-- The passes are processed under the handles of their shaders, -/
  work : ∀ w, w ∈ m.takeWork.1 ↔ ∃ s p, m.shaders[w.shaderIndex]? = some s ∧
    s.passes[w.passIndex]? = some p ∧ m.handles[w.shaderIndex]? = some w.shader ∧
    w.snippet = p.snippet ∧ w.candidates = p.variants
  /-- and these serve the last definitions of the names. -/
  serves : ∀ (i : Nat) (s : ManifestShader), m.shaders[i]? = some s →
    ∃ id last, m.handles[i]? = some id ∧ m.lastNamed? s.name = some last ∧
      m.host.Serves id last.shader
  /-- Other definitions are of no account. -/
  redefined : m.redefined.host = m.host ∧ m.redefined.takeWork.1 = m.takeWork.1

theorem NamedHost.exists_registers {ss : List Shader} (hroom : ss.length < UInt32.size) :
    ∃ h : NamedHost, addAll? {} ss = some (Manifest.registerAll {} ss, h) ∧
      h.Registers ss (Manifest.registerAll {} ss) := by
  have hempty : ({} : NamedHost).size + ss.length ≤ UInt32.size := by
    rw [Host.size, List.length_nil, Nat.zero_add]
    exact hroom.le
  obtain ⟨h, haddAll, htoHost, hexact⟩ := exact_empty.exists_addAll hempty
  rw [← Host.ofList] at htoHost
  have hnames : h.names.Nodup := htoHost ▸ Host.nodup_names_ofList ss
  have hhandles (id : ShaderId) : id ∈ Manifest.registerAll {} ss ↔ id.index < h.size := by
    rw [htoHost, Manifest.mem_registerAll_iff]
  refine ⟨h, haddAll, {
    toHost := htoHost
    length := ?length
    handles := hhandles
    find := ?find
    resolves := ?resolves
    stays := ?stays
    serves := ?serves }⟩
  case length => rw [Manifest.registerAll_empty, List.length_map]
  case find =>
    intro name id
    rw [hexact name, Host.find?_eq_some_iff hnames]
  case resolves =>
    intro i s hs
    have hid : h.toHost.find? s.name = some (h.handleOf s.name) := by
      rw [htoHost, Host.find?_ofList (List.mem_of_getElem? hs)]
    refine ⟨h.handleOf s.name, ?_, ((Host.find?_eq_some_iff hnames).mp hid).2⟩
    rw [Manifest.registerAll_empty, List.getElem?_map, hs, Option.map_some, htoHost]
  case stays =>
    intro more hmore
    -- Names that are repeated take no more room.
    have hsize : h.size ≤ ss.length := htoHost ▸ Host.size_ofList_le ss
    rw [List.length_append] at hmore
    have hroomLeft : h.size + more.length ≤ UInt32.size := by omega
    obtain ⟨h', hmoreAll, hall, -⟩ := hexact.exists_addAll hroomLeft
    refine ⟨_, h', hmoreAll, ?_, fun id hid => ?_⟩
    · rw [hall, htoHost, Host.ofList, Host.ofList, List.foldl_append]
    · rw [hall, Host.nameOf_foldl_add ((hhandles id).mp hid)]
  case serves =>
    intro name id hid
    rw [hexact name, htoHost] at hid
    rw [htoHost]
    exact Host.serves_of_find? hid

theorem Manifest.handled (m : Manifest) : m.Handled := by
  have hhandle {i : Nat} {s : ManifestShader} (hs : m.shaders[i]? = some s) :
      m.handles[i]? = some (m.host.handleOf s.name) := by
    rw [handles_eq, List.getElem?_map, hs, Option.map_some]
  refine {
    length := ?length
    eq_iff := ?eq_iff
    work := ?work
    serves := ?serves
    redefined := ⟨m.host_redefined, m.takeWork_redefined⟩ }
  case length => rw [handles_eq, List.length_map]
  case eq_iff =>
    intro i j s s' hs hs'
    rw [hhandle hs, hhandle hs', Option.some.injEq,
      handleOf_inj (List.mem_of_getElem? hs) (List.mem_of_getElem? hs')]
  case work =>
    intro w
    rw [mem_takeWork_iff]
    constructor
    · rintro ⟨i, s, k, p, hs, hp, rfl⟩
      exact ⟨s, p, hs, hp, hhandle hs, rfl, rfl⟩
    · rintro ⟨s, p, hs, hp, hid, hsnippet, hcandidates⟩
      rw [hhandle hs, Option.some.injEq] at hid
      refine ⟨_, s, _, p, hs, hp, ?_⟩
      rw [hid, ← hsnippet, ← hcandidates]
  case serves =>
    intro i s hs
    obtain ⟨last, hlast, hserves⟩ := serves_handleOf (List.mem_of_getElem? hs)
    exact ⟨_, last, hhandle hs, hlast, hserves⟩

/-- **Names and handles agree.**

* Registering less than 2³² shaders has a result.  The handles are the numbers below that of the
  shaders that are known; each leads to the name that it was returned for, also when more shaders
  are registered, and is what is found under that name.  The last definition of a name is served.
* In a recorded build each shader gets a handle, and two of them share it if and only if they share
  a name.  The passes of a name that is repeated are processed under the handle that serves its last
  definition; and if each shader has that definition to begin with, the host and the work are the
  same. -/
theorem names_and_handles_agree :
    (∀ ss : List Shader, ss.length < UInt32.size →
      ∃ ids h, NamedHost.addAll? {} ss = some (ids, h) ∧ h.Registers ss ids) ∧
    ∀ m : Manifest, m.Handled ∧
      (m.shaders.length < UInt32.size → ∃ h,
        NamedHost.addAll? {} (m.shaders.map (·.shader)) = some (m.handles, h) ∧
          h.toHost = m.host) := by
  refine ⟨fun ss hroom => ?_, fun m => ⟨m.handled, fun hroom => ?_⟩⟩
  · obtain ⟨h, haddAll, hregisters⟩ := NamedHost.exists_registers hroom
    exact ⟨_, h, haddAll, hregisters⟩
  · rw [← List.length_map (·.shader)] at hroom
    obtain ⟨h, haddAll, hregisters⟩ := NamedHost.exists_registers hroom
    exact ⟨h, haddAll, hregisters.toHost⟩

/-- A build in which a fen was defined once more, and drained. -/
def fens : Manifest := ⟨[
  { name := "Fen", path := some "wet.shader", passes := [{ passType := .normal }] },
  { name := "Moss" },
  { name := "Fen", path := some "drained.shader", alwaysIncluded := true }]⟩

theorem names_and_handles_agree_fens :
    fens.shaders.length < UInt32.size ∧ (∃ h : NamedHost,
      NamedHost.addAll? {} (fens.shaders.map (·.shader)) = some ([⟨0⟩, ⟨1⟩, ⟨0⟩], h) ∧
      h.find? "Fen" = some ⟨0⟩ ∧ h.find? "Moss" = some ⟨1⟩ ∧ h.find? "Bog" = none ∧
      h.pathOf? ⟨0⟩ = some "drained.shader") ∧
    fens.redefined.host = fens.host := by
  have hroom : fens.shaders.length < UInt32.size := by decide
  obtain ⟨hregister, hmanifest⟩ := names_and_handles_agree
  obtain ⟨h, haddAll, htoHost⟩ := (hmanifest fens).2 hroom
  obtain ⟨ids, h', haddAll', hregisters⟩ := hregister (fens.shaders.map (·.shader)) hroom
  obtain ⟨rfl, rfl⟩ := Prod.mk.inj (Option.some.inj (haddAll.symm.trans haddAll'))
  have hhandles : fens.handles = [⟨0⟩, ⟨1⟩, ⟨0⟩] := by decide
  refine ⟨hroom, ⟨h, hhandles ▸ haddAll, ?_, ?_, ?_, ?_⟩, (hmanifest fens).1.redefined.1⟩
  · rw [hregisters.find, htoHost]
    decide
  · rw [hregisters.find, htoHost]
    decide
  · rw [Option.eq_none_iff_forall_ne_some]
    intro id hid
    obtain ⟨last, hlast, -⟩ := hregisters.serves "Bog" id hid
    cases hlast
  · rw [htoHost]
    rfl

end VariantStrip
