/-
Which passes share a key.

A key is the name of a shader, the type of a pass and the name of the pass, with double colons
between them.  The names may hold double colons and words for types as well, so a key does not say
where its parts end.  It can be read in two ways if the name of one shader goes on like the pass of
the other (`PassLabel.Overlaps`), and in no other way:

* `eq_or_eq_append_of_separated` — where a word without colons can stand in a text,
* `PassLabel.key_eq_iff` — labels with one key are equal or overlap,
* `PassLabel.eq_of_key_eq` — they are equal if no shader's name has a type after a double colon.

The main result is `keys_tell_passes_apart`.
-/
import VariantStrip.Proofs.BuildRun
import VariantStrip.Proofs.Separated

namespace VariantStrip

/-! ### Types in keys -/

namespace PassType

theorem title_ne_nil (t : PassType) : t.title.toList ≠ [] := by
  cases t <;> decide

theorem colon_not_mem_title (t : PassType) : ':' ∉ t.title.toList := by
  cases t <;> decide

theorem title_injective : Function.Injective title := by
  intro t u h
  cases t <;> cases u <;> first | rfl | exact absurd h (by decide)

end PassType

section

variable {v w xs ys : List Char} (hv : ':' ∉ v) (hw : ':' ∉ w)

include hv hw

/-- A text that begins with a word between double colons is cut in front of another such word.
Either the cut is at the beginning, or the first word stands in front of it. -/
theorem eq_or_eq_append_of_separated (hne : v ≠ []) {front : List Char}
    (h : ':' :: ':' :: (v ++ ':' :: ':' :: xs) =
      front ++ ':' :: ':' :: (w ++ ':' :: ':' :: ys)) :
    (front = [] ∧ v = w ∧ xs = ys) ∨
      ∃ rest, front = ':' :: ':' :: (v ++ rest) ∧
        ':' :: ':' :: xs = rest ++ ':' :: ':' :: (w ++ ':' :: ':' :: ys) := by
  rcases front with - | ⟨c, - | ⟨c', front⟩⟩
  · simp only [List.nil_append, List.cons.injEq, true_and] at h
    obtain ⟨rfl, hrest⟩ := eq_of_append_separator hv hw h
    exact .inl ⟨rfl, rfl, (List.cons.inj hrest).2⟩
  · -- The first word would begin with a colon.
    simp only [List.singleton_append, List.cons.injEq] at h
    obtain ⟨c', v, rfl⟩ := List.exists_cons_of_ne_nil hne
    rw [(List.cons.inj h.2.2).1] at hv
    exact absurd List.mem_cons_self hv
  · simp only [List.cons_append, List.cons.injEq] at h
    obtain ⟨rfl, rfl, h⟩ := h
    rcases List.append_eq_append_iff.mp h with ⟨rest, rfl, hrest⟩ | ⟨inner, rfl, hinner⟩
    · exact .inr ⟨rest, rfl, hrest⟩
    · -- The cut is within the first word, so it is at its end.
      cases inner with
      | nil =>
        refine .inr ⟨[], ?_, hinner.symm⟩
        rw [List.append_nil, List.append_nil]
      | cons c inner =>
        rw [← (List.cons.inj hinner).1] at hv
        exact absurd (List.mem_append_right _ List.mem_cons_self) hv

end

/-! ### Labels -/

/-- What a pass is told apart by: the name of its shader, its type and its own name. -/
structure PassLabel where
  shader : String
  passType : PassType
  name : String
  deriving DecidableEq

namespace PassLabel

/-- The key of the passes with a label. -/
def key (l : PassLabel) : String := passKey l.shader l.passType l.name

/-- The key of one label reads as that of another one as well: the name of the other shader goes on
with the type of the pass, and the name of the pass goes on with the type of the other pass. -/
def Overlaps (l m : PassLabel) : Prop :=
  ∃ rest, m.shader = l.shader ++ "::" ++ l.passType.title ++ rest ∧
    "::" ++ l.name = rest ++ "::" ++ m.passType.title ++ "::" ++ m.name

theorem toList_key (l : PassLabel) : l.key.toList =
    l.shader.toList ++ ':' :: ':' :: (l.passType.title.toList ++ ':' :: ':' :: l.name.toList) := by
  have hkey : l.key = l.shader ++ "::" ++ l.passType.title ++ "::" ++ l.name := rfl
  rw [hkey]
  simp

theorem overlaps_iff {l m : PassLabel} : l.Overlaps m ↔
    ∃ rest, m.shader.toList = l.shader.toList ++ ':' :: ':' :: (l.passType.title.toList ++ rest) ∧
      ':' :: ':' :: l.name.toList =
        rest ++ ':' :: ':' :: (m.passType.title.toList ++ ':' :: ':' :: m.name.toList) := by
  constructor
  · rintro ⟨rest, hshader, hname⟩
    refine ⟨rest.toList, ?_, ?_⟩
    · rw [hshader]
      simp
    · have hname' := congrArg String.toList hname
      simpa using hname'
  · rintro ⟨rest, hshader, hname⟩
    refine ⟨String.ofList rest, ?_, ?_⟩
    · apply String.toList_injective
      simpa using hshader
    · apply String.toList_injective
      simpa using hname

theorem Overlaps.key_eq {l m : PassLabel} (h : l.Overlaps m) : l.key = m.key := by
  obtain ⟨rest, hshader, hname⟩ := overlaps_iff.mp h
  apply String.toList_injective
  rw [toList_key, toList_key, hshader, hname]
  simp

/-- **Labels with one key** are equal or overlap. -/
theorem key_eq_iff {l m : PassLabel} : l.key = m.key ↔ l = m ∨ l.Overlaps m ∨ m.Overlaps l := by
  constructor
  · -- Of the two shaders' names one begins with the other.
    have hlonger {l m : PassLabel} {front : List Char}
        (hshader : m.shader.toList = l.shader.toList ++ front)
        (h : ':' :: ':' :: (l.passType.title.toList ++ ':' :: ':' :: l.name.toList) =
          front ++ ':' :: ':' :: (m.passType.title.toList ++ ':' :: ':' :: m.name.toList)) :
        l = m ∨ l.Overlaps m := by
      rcases eq_or_eq_append_of_separated l.passType.colon_not_mem_title
        m.passType.colon_not_mem_title l.passType.title_ne_nil h with
        ⟨rfl, htype, hname⟩ | ⟨rest, rfl, hrest⟩
      · left
        rw [List.append_nil] at hshader
        have hshader' := String.toList_injective hshader
        have htype' := PassType.title_injective (String.toList_injective htype)
        have hname' := String.toList_injective hname
        cases l
        cases m
        simp only at hshader' htype' hname'
        rw [hshader', htype', hname']
      · exact .inr (overlaps_iff.mpr ⟨rest, hshader, hrest⟩)
    intro h
    have hlist := congrArg String.toList h
    rw [toList_key, toList_key] at hlist
    rcases List.append_eq_append_iff.mp hlist with ⟨front, hshader, hrest⟩ | ⟨front, hshader, hrest⟩
    · exact (hlonger hshader hrest).imp_right .inl
    · rcases hlonger hshader hrest with heq | hoverlaps
      · exact .inl heq.symm
      · exact .inr (.inr hoverlaps)
  · rintro (rfl | h | h)
    · rfl
    · exact h.key_eq
    · exact h.key_eq.symm

theorem not_overlaps_self (l : PassLabel) : ¬ l.Overlaps l := by
  rintro ⟨rest, hshader, -⟩
  have hlength := congrArg String.length hshader
  simp only [String.length_append] at hlength
  have hcolons : "::".length = 2 := rfl
  omega

/-- The name of the shader has no type of a pass after a double colon. -/
def IsPlain (l : PassLabel) : Prop :=
  ∀ t : PassType, ¬ ("::" ++ t.title).toList <:+: l.shader.toList

/-- A label that overlaps with another one makes the name of its shader longer. -/
theorem not_overlaps_of_isPlain {l m : PassLabel} (hm : m.IsPlain) : ¬ l.Overlaps m := by
  rintro ⟨rest, hshader, -⟩
  refine hm l.passType ⟨l.shader.toList, rest.toList, ?_⟩
  rw [hshader]
  simp

theorem eq_of_key_eq {l m : PassLabel} (hl : l.IsPlain) (hm : m.IsPlain) (h : l.key = m.key) :
    l = m := by
  rcases key_eq_iff.mp h with heq | hlm | hml
  · exact heq
  · exact absurd hlm (not_overlaps_of_isPlain hm)
  · exact absurd hml (not_overlaps_of_isPlain hl)

end PassLabel

/-! ### Entries of reports -/

/-- The label of the pass. -/
def PassCall.label (c : PassCall) : PassLabel :=
  ⟨c.host.nameOf c.shader, c.snippet.passType, c.snippet.passName⟩

theorem PassCall.key_label (c : PassCall) : c.label.key = c.key := rfl

/-- Everything that is decided about the passes with a label. -/
def Engine.decisionsAbout (e : Engine) (l : PassLabel) (cs : List PassCall) :
    List (String × Bool) :=
  (cs.filter (·.label == l)).flatMap fun c => e.decisions c.host c.shader c.snippet c.candidates

/-- The label overlaps with those of no calls. -/
def PassLabel.ApartFrom (l : PassLabel) (cs : List PassCall) : Prop :=
  ∀ c ∈ cs, ¬ l.Overlaps c.label ∧ ¬ c.label.Overlaps l

theorem PassLabel.apartFrom_iff {l : PassLabel} {cs : List PassCall} :
    l.ApartFrom cs ↔ ∀ c ∈ cs, c.label.key = l.key → c.label = l := by
  refine forall₂_congr fun c _ => ?_
  rw [key_eq_iff]
  constructor
  · rintro ⟨hfrom, hto⟩ (h | h | h)
    · exact h
    · exact absurd h hto
    · exact absurd h hfrom
  · -- A label does not overlap with itself, so equal keys leave no overlap.
    intro h
    refine ⟨fun hfrom => ?_, fun hto => ?_⟩
    · have heq := h (.inr (.inr hfrom))
      rw [heq] at hfrom
      exact not_overlaps_self l hfrom
    · have heq := h (.inr (.inl hto))
      rw [heq] at hto
      exact not_overlaps_self l hto

/-- The entry of a pass counts what is decided about passes with its label. -/
theorem Engine.entry?_of_apartFrom (e : Engine) {cs : List PassCall} {c : PassCall} (hc : c ∈ cs)
    (hapart : c.label.ApartFrom cs) :
    Tally.entry? (.ofRecords (cs.map e.recordOfCall)) c.label.key =
      some (.ofDecisions (e.decisionsAbout c.label cs)) := by
  have hseen : c.label.key ∈ PassRecord.keys (cs.map e.recordOfCall) :=
    PassRecord.mem_keys.mpr ⟨e.recordOfCall c, List.mem_map_of_mem hc, rfl⟩
  have hlabel : cs.filter (·.key == c.label.key) = cs.filter (·.label == c.label) := by
    refine List.filter_congr fun c' hc' => ?_
    rw [← c'.key_label, Bool.eq_iff_iff, beq_iff_eq, beq_iff_eq]
    refine ⟨PassLabel.apartFrom_iff.mp hapart c' hc', fun h => ?_⟩
    rw [h]
  rw [Tally.entry?_ofRecords, if_pos hseen, e.decisionsOf_recordOfCall, hlabel, decisionsAbout]

/-- **Keys tell passes apart, unless their labels overlap.**

* Labels with one key are equal or overlap, and labels that overlap have one key.
* If no shader's name has a type of a pass after a double colon, labels with one key are equal.
* In every build, each key has one entry, from which its lines in the report are made; and the entry
  of a pass whose label overlaps with that of no other one counts what is decided about passes with
  its label, and nothing else. -/
theorem keys_tell_passes_apart [Pattern.Capacity] :
    (∀ l m : PassLabel, l.key = m.key ↔ l = m ∨ l.Overlaps m ∨ m.Overlaps l) ∧
      (∀ l m : PassLabel, l.IsPlain → m.IsPlain → l.key = m.key → l = m) ∧
      ∀ (s : Stripper) (d : Disk) (h : Host) (assetBundles : Bool) (e : Engine)
        (steps : List BuildStep) (buildTime : Nat) (today : Date) (disk : Disk),
        (s.prepare d h assetBundles).value.2.engine = some e →
          ∃ report,
            (((s.prepare d h assetBundles).value.2.advanceAll steps).value.2.finalize buildTime
              today disk).value.1 = some report ∧
            (report.passes.map (·.1)).Nodup ∧
            ∀ c ∈ BuildStep.calls steps, c.label.ApartFrom (BuildStep.calls steps) →
              report.passes.lookup c.label.key =
                some (.ofDecisions (e.decisionsAbout c.label (BuildStep.calls steps))) := by
  refine ⟨fun l m => PassLabel.key_eq_iff, fun l m => PassLabel.eq_of_key_eq, ?_⟩
  intro s d h assetBundles e steps buildTime today disk hengine
  have hbuild := Stripper.value_advanceAll_prepare hengine steps
  have hbuilt :
      ((s.prepare d h assetBundles).value.2.advanceAll steps).value.2.engine = some e := by
    rw [hbuild]
    exact hengine
  rw [Stripper.value_finalize hbuilt, hbuild]
  refine ⟨_, rfl, ?_, fun c hc hapart => e.entry?_of_apartFrom hc hapart⟩
  show ((Tally.entriesOf _).map (·.1)).Nodup
  rw [Tally.map_fst_entriesOf]
  exact PassRecord.nodup_keys _

/-- Three shaders; the name of the second one is that of the first one with a type after it. -/
def isletHost : Host :=
  .ofList [{ name := "Islet" }, { name := "Islet::Normal" }, { name := "Skerry" }]

theorem isEnabled_prepare_islet :
    (sandStripper.prepare {} isletHost false).value.2.isEnabled = true := by
  decide

/-- A pass of one of the shaders, with one candidate for each of some platforms. -/
def isletPass (shader : Nat) (passName : String) (platforms : List Platform) : PassCall :=
  ⟨isletHost, ⟨shader⟩, ⟨.normal, passName⟩, platforms.map fun p => ⟨["A"], p, .tier1⟩⟩

/-- Passes of all shaders; those of the first two overlap. -/
def isletSteps : List BuildStep :=
  [.pass (isletPass 0 "Normal::P" [.d3d]), .pass (isletPass 1 "P" [.d3d, .vulkan]),
    .shard [isletPass 2 "P" [.vulkan], isletPass 2 "P" [.d3d]]]

/-- The report on these passes. -/
def isletReport : Option Report :=
  (((sandStripper.prepare {} isletHost false).value.2.advanceAll isletSteps).value.2.finalize 0
    ⟨2024, 2, 29⟩ {}).value.1

theorem keys_tell_passes_apart_islet :
    (sandStripper.prepare {} isletHost false).value.2.isEnabled = true ∧
      (isletPass 2 "P" [.d3d]).label.ApartFrom (BuildStep.calls isletSteps) ∧
      (isletReport.bind fun r => r.passes.lookup "Skerry::Normal::P") =
        some (.ofDecisions [("A", false), ("A", true)]) := by
  have hapart : (isletPass 2 "P" [.d3d]).label.ApartFrom (BuildStep.calls isletSteps) :=
    PassLabel.apartFrom_iff.mpr (by decide +kernel)
  have hcall : isletPass 2 "P" [.d3d] ∈ BuildStep.calls isletSteps := by
    simp [isletSteps, BuildStep.calls]
  obtain ⟨report, hreport, -, hentry⟩ :=
    keys_tell_passes_apart.2.2 sandStripper {} isletHost false _ isletSteps 0 ⟨2024, 2, 29⟩ {}
      (Option.some_get isEnabled_prepare_islet).symm
  refine ⟨isEnabled_prepare_islet, hapart, ?_⟩
  rw [isletReport, hreport]
  exact (hentry _ hcall hapart).trans (by decide +kernel)

/-- **Two passes under one key.**  A type in a shader's name is taken for that of the pass, and one
entry counts the candidates of both passes. -/
theorem islet_passes_share_a_key :
    (¬ ∀ (n₁ n₂ : String) (t₁ t₂ : PassType) (p₁ p₂ : String),
        passKey n₁ t₁ p₁ = passKey n₂ t₂ p₂ → n₁ = n₂ ∧ t₁ = t₂ ∧ p₁ = p₂) ∧
      (isletReport.map fun r => r.passes.map fun e => (e.1, e.2.includeCount, e.2.stripCount)) =
        some [("Islet::Normal::Normal::P", 2, 1), ("Skerry::Normal::P", 1, 1)] := by
  refine ⟨fun h => ?_, by decide +kernel⟩
  have hname := (h "Islet" "Islet::Normal" .normal .normal "Normal::P" "P" (by decide)).1
  exact absurd hname (by decide)

end VariantStrip
