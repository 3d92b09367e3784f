/-
The text of a recorded build holds all of it.

Each type of a recorded build is read back from the tree that is written of it, one on top of the
other: `Candidate.readsBack`, `ManifestPass.readsBack`, `ManifestShader.readsBack`.  A field that is
left out has the value that stands for a missing field.

So the text is read back (`Manifest.parse?_write`), although not all fields stand in it
(`Manifest.exists_fields_write`).  The main result is `Manifest.load_after_save`.
-/
import VariantStrip.Manifest.File
import VariantStrip.Proofs.DiskGrowth
import VariantStrip.Proofs.JsonText

namespace VariantStrip

open Document

theorem readsBack_texts : ReadsBack Json (listOf text?) textsTree := (readsBack_text Json).listOf

theorem Platform.readsBack : ReadsBack Json spelled? fun p : Platform => .word p.name :=
  readsBack_spelled Json fun p => by cases p <;> decide

theorem Tier.readsBack : ReadsBack Json spelled? fun t : Tier => .word t.name :=
  readsBack_spelled Json fun t => by cases t <;> decide

theorem Candidate.readsBack : ReadsBack Json read? tree := by
  intro level c
  rw [read?, tree, Presents.record?_ofTree]
  · simp only [Option.bind_eq_bind, Option.bind_some, List.map_cons, List.map_nil,
      Document.optional, required, List.lookup_cons, String.reduceBEq, readsBack_texts _ c.keywords,
      Platform.readsBack _ c.platform, Tier.readsBack _ c.tier]
    rfl
  · exact .refl _
  · decide

theorem ManifestPass.readsBack : ReadsBack Json read? tree := by
  intro level p
  rw [read?, tree, Presents.record?_ofTree]
  · simp only [Option.bind_eq_bind, Option.bind_some, List.map_cons, List.map_nil,
      Document.optional, required, List.lookup_cons, String.reduceBEq, PassType.readsBack Json _
      p.passType,
      readsBack_text Json _ p.passName, Candidate.readsBack.listOf _ p.variants]
    rfl
  · exact .refl _
  · decide

theorem ManifestShader.readsBack : ReadsBack Json read? tree := by
  rintro level ⟨name, path, alwaysIncluded, localKeywords, invalidKeywords, passes⟩
  rw [read?, tree, Presents.record?_ofTree]
  · -- What is left out is not found, and then has the value that it had.
    cases path <;> cases invalidKeywords <;>
      simp only [Option.bind_eq_bind, Option.bind_some, List.map_cons, List.map_nil,
        List.cons_append, List.nil_append, List.isEmpty_nil, List.isEmpty_cons, if_true,
        Bool.false_eq_true, if_false, Document.optional, required, List.lookup_cons,
        String.reduceBEq,
        readsBack_text Json _ name, readsBack_bool Json _ alwaysIncluded,
        readsBack_texts _ localKeywords, readsBack_texts _ (_ :: _),
        ManifestPass.readsBack.listOf _ passes] <;>
      rfl
  · cases path <;> cases invalidKeywords <;> exact List.isSublist_iff_sublist.mp rfl
  · decide

theorem Manifest.readsBack : ReadsBack Json read? tree := by
  intro level m
  rw [read?, tree, Presents.record?_ofTree]
  · simp only [Option.bind_eq_bind, Option.bind_some, List.map_cons, List.map_nil,
      Document.optional, List.lookup_cons, String.reduceBEq,
      ManifestShader.readsBack.listOf _ m.shaders]
    rfl
  · exact .refl _
  · decide

/-- **What is written of a recorded build is read back.** -/
theorem Manifest.parse?_write (m : Manifest) : parse? m.write = some m := by
  rw [parse?, write, Json.parse?_write, Option.bind_some]
  exact readsBack 0 m

/-! ### The fields in the text -/

theorem Json.map_fst_ofFields (fs : List (String × Tree)) :
    (Json.ofFields fs).map (·.1) = fs.map fun f => some f.1 := by
  induction fs with
  | nil => rfl
  | cons f fs ih => rw [ofFields, List.map_cons, List.map_cons, ih]

/-- The names of the fields that are written of a shader. -/
def ManifestShader.writtenFields (s : ManifestShader) : List String :=
  ["name"] ++ (if s.path = none then [] else ["path"]) ++ ["always_included", "local_keywords"] ++
    (if s.invalidKeywords = [] then [] else ["invalid_keywords"]) ++ ["passes"]

theorem ManifestShader.exists_fields_tree (s : ManifestShader) :
    ∃ fields, Json.ofTree s.tree = .object fields ∧
      fields.map (·.1) = s.writtenFields.map some := by
  refine ⟨_, rfl, ?_⟩
  rw [Json.map_fst_ofFields, writtenFields]
  rcases s with ⟨name, - | path, alwaysIncluded, localKeywords, - | ⟨k, ks⟩, passes⟩ <;> rfl

namespace Manifest

/-- **The fields in the text.**  The text of a recorded build is an object with its shaders, which
are objects with the fields that are written of them. -/
theorem exists_fields_write (m : Manifest) :
    ∃ shaders : List (List (Option String × Json)),
      Json.parse? m.write.toList =
          some (.object [(some "shaders", .array (shaders.map .object))]) ∧
        shaders.map (·.map (·.1)) = m.shaders.map fun s => s.writtenFields.map some := by
  choose fields hobject hnames using ManifestShader.exists_fields_tree
  refine ⟨m.shaders.map fields, ?_, ?_⟩
  · rw [write, Json.parse?_write, tree, Json.ofTree, Json.ofFields, Json.ofFields, Json.ofTree,
      Json.ofTrees_eq, List.map_map, List.map_map]
    simp only [Function.comp_def, hobject]
  · simp only [List.map_map, Function.comp_def, hnames]

/-! ### Files -/

theorem load_of_read {d : Disk} {p : Path} {m : Manifest} (hread : d.read p = .ok m.write) :
    load d p = .ok m := by
  rw [load, hread]
  dsimp only
  rw [parse?_write]

theorem save_eq_ok_iff {m : Manifest} {d d' : Disk} {p : Path} :
    m.save d p = .ok d' ↔ d.write p m.write = .ok d' := mapError_eq_ok_iff

/-- **What is saved is loaded.**  A recorded build is saved wherever a file can be written, and
loading the file gives the recorded build again.  Its text has the fields of each shader, except for
a missing path and an empty list of invalid keywords. -/
theorem load_after_save (m : Manifest) :
    (∀ d p, d.Writable p → ∃ d', m.save d p = .ok d') ∧
      (∀ d d' p, m.save d p = .ok d' → load d' p = .ok m) ∧
      parse? m.write = some m ∧
      ∃ shaders : List (List (Option String × Json)),
        Json.parse? m.write.toList =
            some (.object [(some "shaders", .array (shaders.map .object))]) ∧
          shaders.map (·.map (·.1)) = m.shaders.map fun s => s.writtenFields.map some := by
  refine ⟨fun d p hwritable => ?_, fun d d' p hsave => ?_, m.parse?_write, m.exists_fields_write⟩
  · obtain ⟨d', hwrite⟩ := hwritable.write m.write
    exact ⟨d', save_eq_ok_iff.mpr hwrite⟩
  · have hwrite := save_eq_ok_iff.mp hsave
    exact load_of_read (Disk.read_of_write hwrite (.refl (fun _ => False) d') fun _ _ => id)

/-- A shader that is recorded twice, with an empty path and without one, names and keywords that are
written with escapes, and empty lists. -/
def spitManifest : Manifest :=
  ⟨[{ name := "Spit/\"Sand\"\\", path := some "", invalidKeywords := ["", "\x07\n"],
      passes := [⟨.shadowCaster, "é\u0301", [⟨["B", "A", "B"], .switch, .tier3⟩]⟩,
        ⟨.normal, "", []⟩] },
    { name := "Spit/\"Sand\"\\", alwaysIncluded := true, localKeywords := ["𝄞"] }]⟩

/-- The file is there before, with another text. -/
theorem load_after_save_spit :
    let d : Disk := { entries := [(["spit.json"], .file "none")] }
    d.Writable ⟨"spit.json"⟩ ∧
      (∃ d', spitManifest.save d ⟨"spit.json"⟩ = .ok d' ∧
        load d' ⟨"spit.json"⟩ = .ok spitManifest) ∧
      spitManifest.shaders.map (·.writtenFields) =
        [["name", "path", "always_included", "local_keywords", "invalid_keywords", "passes"],
          ["name", "always_included", "local_keywords", "passes"]] := by
  intro d
  have hwritable : d.Writable ⟨"spit.json"⟩ := ⟨["spit.json"], by decide, by decide⟩
  obtain ⟨hsaved, hloaded, -⟩ := load_after_save spitManifest
  obtain ⟨d', hsave⟩ := hsaved d _ hwritable
  exact ⟨hwritable, ⟨d', hsave, hloaded d d' _ hsave⟩, by decide⟩

end Manifest

end VariantStrip
