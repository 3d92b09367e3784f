/-
The text of a catalog holds all of it, in both formats.

Catalogs are written as trees of lists, records, names of types of passes and texts.  Their keywords
may be written in more than one form, and a catalog is read back from documents of any kind if its
keywords are (`Catalog.read?_treeWith`): a list of keywords is not taken for one text, and an empty
list not for a missing field.  The trees have names of fields and words that stand without quotes
(`Catalog.readable_treeWith`), so the texts are read back as well (`Catalog.parse_writeWith`).

The main result is `Catalog.round_trip`.
-/
import VariantStrip.Proofs.CatalogLoad
import VariantStrip.Proofs.DiskGrowth
import VariantStrip.Proofs.JsonText
import VariantStrip.Proofs.RonText

namespace VariantStrip

open Document

/-! ### Forms of keywords -/

/-- What is written of a variant, with its keywords in some form. -/
def CatalogVariant.treeWith (form : List String → Tree) (v : CatalogVariant) : Tree :=
  .record [("pass_type", .word v.passType.name), ("keywords", form v.keywords)]

/-- What is written of the variants of a shader. -/
def CatalogShader.treeWith (form : List String → Tree) (s : CatalogShader) : Tree :=
  .record [("shader", .text s.shader), ("variants", .list (s.variants.map (·.treeWith form)))]

namespace Catalog

/-- What is written of a catalog. -/
def treeWith (form : List String → Tree) (c : Catalog) : Tree :=
  .record [("shaders", .list (c.shaders.map (·.treeWith form)))]

/-- The text of a catalog, with keywords in some form. -/
def writeWith (form : List String → Tree) (format : Format) (c : Catalog) : String :=
  match format with
  | .json => Json.write (c.treeWith form)
  | .ron => Ron.write (c.treeWith form)

/-- The form of a list, which catalogs are saved in. -/
def listForm (keywords : List String) : Tree := .list (keywords.map .text)

theorem writeWith_listForm (format : Format) (c : Catalog) :
    c.writeWith listForm format = c.write format := rfl

end Catalog

open Catalog (listForm)

section

variable (δ : Type) [Document δ] [Presents δ] {form : List String → Tree}

/-- Keywords in a form are read as they are. -/
def KeywordsReadBack (form : List String → Tree) (keywords : List String) : Prop :=
  ∀ level, readKeywords? (Presents.ofTree level (form keywords) : δ) = some keywords

/-- Keywords are written as a list, and are not read as one text. -/
theorem keywordsReadBack_listForm (keywords : List String) :
    KeywordsReadBack δ listForm keywords := by
  intro level
  rw [readKeywords?, listForm, Presents.looseList?_ofTree]
  exact mapM_ofTree fun keyword _ => readsBack_text δ (level + 2) keyword

variable {δ}

theorem CatalogVariant.read?_treeWith {v : CatalogVariant} (hv : KeywordsReadBack δ form v.keywords)
    (level : Nat) : read? (Presents.ofTree level (v.treeWith form) : δ) = some v := by
  rw [read?, treeWith, Presents.record?_ofTree]
  · simp only [Option.bind_eq_bind, Option.bind_some, List.map_cons, List.map_nil,
      Document.optional, required, List.lookup_cons, String.reduceBEq,
      PassType.readsBack δ _ v.passType, hv (level + 2)]
    rfl
  · exact .refl _
  · decide

theorem CatalogShader.read?_treeWith {s : CatalogShader}
    (hs : ∀ v ∈ s.variants, KeywordsReadBack δ form v.keywords) (level : Nat) :
    read? (Presents.ofTree level (s.treeWith form) : δ) = some s := by
  have hvariants : listOf CatalogVariant.read?
      (Presents.ofTree (level + 2) (.list (s.variants.map (·.treeWith form))) : δ) =
        some s.variants :=
    listOf_ofTree fun v hv => CatalogVariant.read?_treeWith (hs v hv) _
  rw [read?, treeWith, Presents.record?_ofTree]
  · simp only [Option.bind_eq_bind, Option.bind_some, List.map_cons, List.map_nil,
      Document.optional, required, List.lookup_cons, String.reduceBEq, readsBack_text δ _ s.shader,
      hvariants]
    rfl
  · exact .refl _
  · decide

theorem Catalog.read?_treeWith {c : Catalog}
    (hc : ∀ s ∈ c.shaders, ∀ v ∈ s.variants, KeywordsReadBack δ form v.keywords) (level : Nat) :
    read? (Presents.ofTree level (c.treeWith form) : δ) = some c := by
  have hshaders : listOf CatalogShader.read?
      (Presents.ofTree (level + 2) (.list (c.shaders.map (·.treeWith form))) : δ) =
        some c.shaders :=
    listOf_ofTree fun s hs => CatalogShader.read?_treeWith (hc s hs) _
  rw [read?, treeWith, Presents.record?_ofTree]
  · simp only [Option.bind_eq_bind, Option.bind_some, List.map_cons, List.map_nil,
      Document.optional, List.lookup_cons, String.reduceBEq, hshaders]
    rfl
  · exact .refl _
  · decide

end

/-! ### Names without quotes -/

open Ron (Readable)

theorem readable_listForm (keywords : List String) : Readable (listForm keywords) :=
  .list (List.forall_mem_map.mpr fun keyword _ => .text keyword)

theorem PassType.readable_name (t : PassType) : Readable (.word t.name) := by
  refine .word ?_ ?_ <;> cases t <;> decide

section

variable {form : List String → Tree} (hform : ∀ keywords, Readable (form keywords))

include hform

theorem CatalogVariant.readable_treeWith (v : CatalogVariant) : Readable (v.treeWith form) := by
  refine .record ?_ ?_
  · simp only [List.forall_mem_cons]
    decide
  · simp only [List.forall_mem_cons]
    exact ⟨v.passType.readable_name, hform v.keywords, nofun⟩

theorem CatalogShader.readable_treeWith (s : CatalogShader) : Readable (s.treeWith form) := by
  refine .record ?_ ?_
  · simp only [List.forall_mem_cons]
    decide
  · simp only [List.forall_mem_cons]
    exact ⟨.text s.shader, .list (List.forall_mem_map.mpr fun v _ => v.readable_treeWith hform),
      nofun⟩

theorem Catalog.readable_treeWith (c : Catalog) : Readable (c.treeWith form) := by
  refine .record ?_ ?_
  · simp only [List.forall_mem_cons]
    decide
  · simp only [List.forall_mem_cons]
    exact ⟨.list (List.forall_mem_map.mpr fun s _ => s.readable_treeWith hform), nofun⟩

end

namespace Catalog

/-- **Texts with keywords in some form.**  If the keywords of all variants are read back, so is the
catalog. -/
theorem parse_writeWith {form : List String → Tree} (hform : ∀ keywords, Readable (form keywords))
    {c : Catalog}
    (hjson : ∀ s ∈ c.shaders, ∀ v ∈ s.variants, KeywordsReadBack Json form v.keywords)
    (hron : ∀ s ∈ c.shaders, ∀ v ∈ s.variants, KeywordsReadBack Ron.Node form v.keywords)
    (format : Format) : parse format (c.writeWith form format) = .ok c := by
  have hread : parse? format (c.writeWith form format) = some c := by
    cases format with
    | json =>
      rw [parse?, writeWith, Json.parse?_write, Option.bind_some]
      exact read?_treeWith hjson 0
    | ron =>
      rw [parse?, writeWith, Ron.parse?_write (readable_treeWith hform c), Option.bind_some]
      exact read?_treeWith hron 0
  rw [parse, hread]

/-- **Texts.**  What is written of a catalog is read back. -/
theorem parse_write (format : Format) (c : Catalog) : parse format (c.write format) = .ok c := by
  rw [← writeWith_listForm]
  exact parse_writeWith readable_listForm
    (fun _ _ v _ => keywordsReadBack_listForm Json v.keywords)
    (fun _ _ v _ => keywordsReadBack_listForm Ron.Node v.keywords) format

/-! ### Files -/

/-- What has been saved has a known extension, and the file has been written. -/
theorem save_eq_ok_iff {d d' : Disk} {p : Path} {c : Catalog} :
    save d p c = (.ok (), d') ↔ ∃ format, Format.ofPath? p = some format ∧
      d.writeInto p (c.write format) = (.ok (), d') := by
  rw [save, Format.require]
  cases hformat : Format.ofPath? p with
  | none => simp
  | some format =>
    rcases hwrite : d.writeInto p (c.write format) with ⟨fault | _, d₁⟩ <;> simp [hwrite]

/-- **What is saved is loaded.**  In both formats the text of a catalog is read as that catalog.  A
catalog is saved under a path with a known extension if the file can be written, and what has been
saved is loaded again. -/
theorem round_trip (c : Catalog) :
    (∀ format, parse format (c.write format) = .ok c) ∧
      (∀ d d' p format, Format.ofPath? p = some format →
        d.writeInto p (c.write format) = (.ok (), d') → save d p c = (.ok (), d')) ∧
      ∀ d d' p, save d p c = (.ok (), d') → load d' p = .ok (some c) := by
  refine ⟨fun format => parse_write format c, fun d d' p format hformat hwrite => ?_,
    fun d d' p hsave => ?_⟩
  · exact save_eq_ok_iff.mpr ⟨format, hformat, hwrite⟩
  · obtain ⟨format, hformat, hwrite⟩ := save_eq_ok_iff.mp hsave
    exact load_of_read hformat (Disk.read_of_writeInto hwrite) (parse_write format c)

/-- Texts that are written with escapes, an empty text and one with blanks, and empty lists. -/
def grottoCatalog : Catalog :=
  ⟨[⟨"Grotto/\"Deep\"\\", [⟨.shadowCaster, ["", "A B", "\x07\x1b", "é\u0301'"]⟩, ⟨.normal, []⟩]⟩,
    ⟨"", []⟩]⟩

/-- The folder of the file is made. -/
theorem round_trip_grotto :
    load (save {} ⟨"maps/grotto.RON"⟩ grottoCatalog).2 ⟨"maps/grotto.RON"⟩ =
        .ok (some grottoCatalog) ∧
      load (save {} ⟨"maps/grotto.json"⟩ grottoCatalog).2 ⟨"maps/grotto.json"⟩ =
        .ok (some grottoCatalog) := by
  have hron : (save {} ⟨"maps/grotto.RON"⟩ grottoCatalog).1 = .ok () := by decide +kernel
  have hjson : (save {} ⟨"maps/grotto.json"⟩ grottoCatalog).1 = .ok () := by decide +kernel
  exact ⟨(round_trip grottoCatalog).2.2 {} _ _ (Prod.ext hron rfl),
    (round_trip grottoCatalog).2.2 {} _ _ (Prod.ext hjson rfl)⟩

end Catalog

end VariantStrip
