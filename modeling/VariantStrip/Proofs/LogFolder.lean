/-
The folder of reports that the environment names.

The text of a variable is read as a value, and only some texts are left as they are:

* `ConfigValue.denotes_iff` — what a text stands for, by the grammar of values,
* `ConfigValue.ofText_eq_text_iff` — a text stands for itself unless it is altered: it spells a
  truth value, a list, a table, a text in quotes, a character or a number, or it has blanks around
  it that get lost,
* `Environment.get?_layer` — a variable that no other one replaces binds its key,
* `ReportOverrides.load_of_denotes_text` — so the folder is the text that the variable stands for.

The main result is `folder_of_environment`: a name that is altered gives another folder, or none.
-/
import VariantStrip.Proofs.Precedence
import VariantStrip.Proofs.ValueNotation

namespace VariantStrip

namespace ConfigValue

open Text

/-! ### What a text stands for -/

/-- All characters are blank. -/
def IsBlankText (s : String) : Prop := ∀ c ∈ s.toList, isBlank c = true

/-- **What a text stands for**: what it spells, and itself if it is blank or spells nothing. -/
inductive Denotes (s : String) : ConfigValue → Prop
  | blank (h : IsBlankText s) : Denotes s (.text s)
  | spelled {v : ConfigValue} (h : ¬ IsBlankText s) (hv : Spells .value s.toList v) : Denotes s v
  | unspelled (h : ¬ IsBlankText s) (hv : ∀ v, ¬ Spells .value s.toList v) : Denotes s (.text s)

theorem ofText_of_blank {s : String} (h : IsBlankText s) : ofText s = .text s := by
  rw [ofText, if_pos (List.all_eq_true.mpr h)]

theorem ofText_of_spells {s : String} {v : ConfigValue} (h : ¬ IsBlankText s)
    (hv : Spells .value s.toList v) : ofText s = v := by
  rw [ofText, if_neg (fun hall => h (List.all_eq_true.mp hall)), value?_eq_some_iff.mpr hv]

theorem ofText_of_not_spells {s : String} (h : ¬ IsBlankText s)
    (hv : ∀ v, ¬ Spells .value s.toList v) : ofText s = .text s := by
  rw [ofText, if_neg (fun hall => h (List.all_eq_true.mp hall))]
  split
  · next v hread => exact absurd (value?_eq_some_iff.mp hread) (hv v)
  · rfl

/-- A text stands for one value, which is the one that is read. -/
theorem denotes_iff {s : String} {v : ConfigValue} : Denotes s v ↔ ofText s = v := by
  constructor
  · intro h
    cases h with
    | blank h => exact ofText_of_blank h
    | spelled h hv => exact ofText_of_spells h hv
    | unspelled h hv => exact ofText_of_not_spells h hv
  · rintro rfl
    by_cases h : IsBlankText s
    · rw [ofText_of_blank h]
      exact .blank h
    · by_cases hv : ∃ v, Spells .value s.toList v
      · obtain ⟨v, hv⟩ := hv
        rw [ofText_of_spells h hv]
        exact .spelled h hv
      · rw [not_exists] at hv
        rw [ofText_of_not_spells h hv]
        exact .unspelled h hv

/-! ### Texts that stand for themselves -/

/-- A whole number that fits, or a decimal number with a point. -/
def IsNumber (cs : List Char) : Prop :=
  '.' ∈ cs ∧ isDecimal (dropSign cs) = true ∨ isWhole cs = true

/-- **A text that does not stand for itself**: it spells a truth value, a text in quotes, a
character, a list or a table, or else it is plain and is a number or loses its blanks. -/
inductive Altered : List Char → Prop
  | core {l x r : List Char} {v : ConfigValue} (hl : Spaces l) (h : Spells .core x v)
      (hr : Spaces r) : Altered (l ++ (x ++ r))
  | number {l x : List Char} (hl : Spaces l) (hx : Plain x) (h : IsNumber (trim x)) :
      Altered (l ++ x)
  | trimmed {l x : List Char} (hl : Spaces l) (hx : Plain x) (h : trim x ≠ l ++ x) :
      Altered (l ++ x)

theorem ofBare_of_number {cs : List Char} (h : IsNumber (trim cs)) : ofBare cs = .other := by
  rw [ofBare, if_pos]
  simpa [IsNumber] using h

theorem ofBare_of_not_number {cs : List Char} (h : ¬ IsNumber (trim cs)) :
    ofBare cs = .text (String.ofList (trim cs)) := by
  rw [ofBare, if_neg]
  simpa [IsNumber] using h

/-- Quotes and escapes take more characters than what they spell. -/
theorem Quoted.length_lt {x s : List Char} (h : Quoted x s) : s.length < x.length := by
  induction h with
  | close => exact Nat.one_pos
  | escape he h ih =>
    simp only [List.length_cons, List.length_append]
    omega
  | plain hquote hslash hc h ih =>
    rw [List.length_cons, List.length_cons]
    omega

theorem length_lt_of_spells_core {x : List Char} {t : String}
    (h : Spells .core x (.text t)) : t.toList.length < x.length := by
  cases h with
  | string hx =>
    rw [String.toList_ofList, List.length_cons]
    exact Nat.lt_succ_of_lt hx.length_lt
  | char c => simp

/-- **A text stands for itself** if and only if it is blank or not altered. -/
theorem ofText_eq_text_iff {s : String} :
    ofText s = .text s ↔ IsBlankText s ∨ ¬ Altered s.toList := by
  by_cases hblank : IsBlankText s
  · exact iff_of_true (ofText_of_blank hblank) (.inl hblank)
  rw [or_iff_right hblank]
  constructor
  · intro hself haltered
    generalize hcs : s.toList = cs at haltered
    cases haltered with
    | @core l x r v hl hx hr =>
      -- It spells no text that is as long as itself.
      have hv : ofText s = v := ofText_of_spells hblank (hcs ▸ .padded hl hx hr)
      rw [hself] at hv
      subst hv
      have hlength := length_lt_of_spells_core hx
      rw [hcs, List.length_append, List.length_append] at hlength
      omega
    | @number l x hl hx hnumber =>
      have hv : ofText s = ofBare x := ofText_of_spells hblank (hcs ▸ .plain hl hx)
      rw [hself, ofBare_of_number hnumber] at hv
      cases hv
    | @trimmed l x hl hx htrim =>
      have hv : ofText s = ofBare x := ofText_of_spells hblank (hcs ▸ .plain hl hx)
      rw [hself] at hv
      by_cases hnumber : IsNumber (trim x)
      · rw [ofBare_of_number hnumber] at hv
        cases hv
      · rw [ofBare_of_not_number hnumber] at hv
        refine htrim ?_
        rw [← hcs, text.inj hv, String.toList_ofList]
  · intro haltered
    by_cases hv : ∃ v, Spells .value s.toList v
    · obtain ⟨v, hv⟩ := hv
      rw [ofText_of_spells hblank hv]
      generalize hcs : s.toList = cs at hv haltered
      cases hv with
      | padded hl hx hr => exact absurd (.core hl hx hr) haltered
      | @plain l x hl hx =>
        have hnumber : ¬ IsNumber (trim x) := fun h => haltered (.number hl hx h)
        have htrim : trim x = l ++ x := by
          by_contra h
          exact haltered (.trimmed hl hx h)
        rw [ofBare_of_not_number hnumber, htrim, ← hcs, String.ofList_toList]
    · exact ofText_of_not_spells hblank (not_exists.mp hv)

end ConfigValue

/-! ### The folder -/

/-- The variable that names the folder of reports. -/
def folderVariable : String := "SHADER_STRIPPER_LOG_DIR"

namespace Environment

/-- The variable has a text, and no other variable sets the folder of reports. -/
def SetsFolder (e : Environment) (name : String) : Prop :=
  (folderVariable, name) ∈ e ∧
    ∀ x ∈ e, ∀ v, binding? ReportOverrides.variableStart x.1 x.2 = some ("log_dir", v) →
      x = (folderVariable, name)

theorem binding?_folderVariable (name : String) :
    binding? ReportOverrides.variableStart folderVariable name =
      some ("log_dir", .ofText name) := by
  have hstart : ((ReportOverrides.variableStart.toList.map Char.toLower).isPrefixOf
      ((Text.trim folderVariable.toList).map Char.toLower)) = true := by
    decide +kernel
  have hparts : splitDots [] ((Text.trim ((Text.trim folderVariable.toList).drop
      ReportOverrides.variableStart.length)).map Char.toLower) = ["log_dir".toList] := by
    decide +kernel
  rw [binding?]
  simp only [hstart, hparts]
  rfl

theorem lookup_eq_some_of_unique {β : Type} {l : List (String × β)} {key : String} {v : β}
    (hmem : (key, v) ∈ l) (hunique : ∀ w, (key, w) ∈ l → w = v) : l.lookup key = some v := by
  induction l with
  | nil => cases hmem
  | cons x l ih =>
    obtain ⟨key', w⟩ := x
    by_cases hkey : key = key'
    · subst hkey
      rw [List.lookup_cons_self, hunique w List.mem_cons_self]
    · rw [List.lookup_cons, beq_false_of_ne hkey]
      refine ih ((List.mem_cons.mp hmem).resolve_left ?_) fun w' hw' =>
        hunique w' (List.mem_cons_of_mem _ hw')
      rintro ⟨⟩
      exact hkey rfl

/-- The layer binds the folder to what the text of the variable stands for. -/
theorem get?_layer {e : Environment} {name : String} (h : e.SetsFolder name) :
    (e.layer ReportOverrides.variableStart).get? "log_dir" = some (.ofText name) := by
  obtain ⟨hmem, hunique⟩ := h
  refine lookup_eq_some_of_unique ?_ fun w hw => ?_
  · rw [List.mem_reverse]
    exact List.mem_filterMap.mpr ⟨_, hmem, binding?_folderVariable name⟩
  · rw [List.mem_reverse] at hw
    obtain ⟨x, hx, hbinding⟩ := List.mem_filterMap.mp hw
    obtain rfl := hunique x hx w hbinding
    have hsame := (binding?_folderVariable name).symm.trans hbinding
    exact (congrArg Prod.snd (Option.some.inj hsame)).symm

end Environment

section

variable {d : Disk} {config : Path} {file : ConfigLayer}
  (hfile : ReportOverrides.fileLayer d config = .ok file) {e : Environment} {name : String}
  (hname : e.SetsFolder name)

include hname

theorem merged_log_dir :
    merged file (e.layer ReportOverrides.variableStart) "log_dir" = some (.ofText name) := by
  rw [merged, Environment.get?_layer hname, Option.some_or]

include hfile

/-- A name that stands for a text gives this text as the folder. -/
theorem ReportOverrides.load_of_denotes_text
    (hflags : ∀ key ∈ ["log_included_variants", "log_stripped_variants"],
      ∀ v ∈ merged file (e.layer variableStart) key, ∃ b, v = .bool b)
    {arguments : ReportOverrides} (harguments : arguments.logDir = none) (s : Settings)
    {t : String} (ht : ConfigValue.Denotes name (.text t)) :
    ∃ o, load d config e arguments = .ok o ∧ (o.apply s).logPath = some ⟨t⟩ := by
  rw [ConfigValue.denotes_iff] at ht
  have hfits : Fits file (e.layer variableStart) := by
    refine ⟨?_, hflags⟩
    rw [merged_log_dir hname, ht]
    rintro v ⟨⟩
    exact ⟨t, rfl⟩
  refine ⟨_, (load_of_fileLayer hfile e arguments).trans (ofLayers_of_fits hfits arguments), ?_⟩
  -- The command line leaves the folder open, and then the environment comes first.
  show (arguments.logDir.or
    ((((e.layer variableStart).get? "log_dir").bind (·.path?)).or file.sets.logDir)).or
      s.logPath = _
  rw [harguments, Environment.get?_layer hname, ht]
  rfl

/-- A name that stands for no text is a failure. -/
theorem ReportOverrides.load_of_denotes_other {v : ConfigValue} (hv : ConfigValue.Denotes name v)
    (hkind : ∀ t, v ≠ .text t) (arguments : ReportOverrides) :
    load d config e arguments = .error .wrongKind := by
  rw [load_of_fileLayer hfile]
  refine ofLayers_of_not_fits ?_ arguments
  rintro ⟨hfits, -⟩
  obtain ⟨t, ht⟩ := hfits _ (merged_log_dir hname)
  rw [ConfigValue.denotes_iff.mp hv] at ht
  exact hkind t ht

end

/-- **The folder that the environment names.**  Let a variable name the folder, let no other one do
so, nor the command line, and let the other report settings be read; what the config file and the
settings say about the folder does not matter.

* The folder is the name as it stands if and only if the name is blank or not altered.
* In general it is the text that the name stands for.
* If the name stands for no text, the report settings cannot be read. -/
theorem folder_of_environment {d : Disk} {config : Path} {file : ConfigLayer}
    (hfile : ReportOverrides.fileLayer d config = .ok file) {e : Environment} {name : String}
    (hname : e.SetsFolder name)
    (hflags : ∀ key ∈ ["log_included_variants", "log_stripped_variants"],
      ∀ v ∈ merged file (e.layer ReportOverrides.variableStart) key, ∃ b, v = .bool b)
    {arguments : ReportOverrides} (harguments : arguments.logDir = none) (s : Settings) :
    ((∃ o, ReportOverrides.load d config e arguments = .ok o ∧
        (o.apply s).logPath = some ⟨name⟩) ↔
      ConfigValue.IsBlankText name ∨ ¬ ConfigValue.Altered name.toList) ∧
    (∀ t, ConfigValue.Denotes name (.text t) →
      ∃ o, ReportOverrides.load d config e arguments = .ok o ∧
        (o.apply s).logPath = some ⟨t⟩) ∧
    ∀ v, ConfigValue.Denotes name v → (∀ t, v ≠ .text t) →
      ReportOverrides.load d config e arguments = .error .wrongKind := by
  have htext (t : String) (ht : ConfigValue.Denotes name (.text t)) :
      ∃ o, ReportOverrides.load d config e arguments = .ok o ∧
        (o.apply s).logPath = some ⟨t⟩ :=
    ReportOverrides.load_of_denotes_text hfile hname hflags harguments s ht
  have hother (v : ConfigValue) (hv : ConfigValue.Denotes name v) (hkind : ∀ t, v ≠ .text t) :
      ReportOverrides.load d config e arguments = .error .wrongKind :=
    ReportOverrides.load_of_denotes_other hfile hname hv hkind arguments
  refine ⟨?_, htext, hother⟩
  rw [← ConfigValue.ofText_eq_text_iff]
  constructor
  · rintro ⟨o, ho, hpath⟩
    -- Nothing but a text gives a folder, and it gives no other one than itself.
    cases hv : ConfigValue.ofText name with
    | text t =>
      obtain ⟨o', ho', hpath'⟩ := htext t (ConfigValue.denotes_iff.mpr hv)
      cases ho.symm.trans ho'
      rw [hpath] at hpath'
      cases hpath'
      rfl
    | bool b =>
      have hfails := hother _ (ConfigValue.denotes_iff.mpr hv) (fun t h => by cases h)
      cases ho.symm.trans hfails
    | other =>
      have hfails := hother _ (ConfigValue.denotes_iff.mpr hv) (fun t h => by cases h)
      cases ho.symm.trans hfails
  · intro hself
    exact htext name (ConfigValue.denotes_iff.mpr hself)

/-- An environment that sets the folder, and nothing else. -/
def tideVariables (name : String) : Environment := [(folderVariable, name)]

theorem setsFolder_tideVariables (name : String) : (tideVariables name).SetsFolder name := by
  refine ⟨List.mem_singleton_self _, fun x hx v _ => ?_⟩
  exact List.mem_singleton.mp hx

theorem folder_of_environment_tide :
    (∃ o, ReportOverrides.load {} ⟨"c.toml"⟩ (tideVariables "Tide/2024") {} = .ok o ∧
        (o.apply { logPath := some ⟨"Ebb"⟩ }).logPath = some ⟨"Tide/2024"⟩) ∧
      (∃ o, ReportOverrides.load {} ⟨"c.toml"⟩ (tideVariables " Tide\t") {} = .ok o ∧
        (o.apply { logPath := some ⟨"Ebb"⟩ }).logPath = some ⟨"Tide"⟩) ∧
      ReportOverrides.load {} ⟨"c.toml"⟩ (tideVariables "[Tide, [], 'x']") {} =
        .error .wrongKind := by
  have hfile : ReportOverrides.fileLayer {} ⟨"c.toml"⟩ = .ok [] := by decide +kernel
  have hflags (name : String) : ∀ key ∈ ["log_included_variants", "log_stripped_variants"],
      ∀ v ∈ merged [] ((tideVariables name).layer ReportOverrides.variableStart) key,
        ∃ b, v = .bool b := by
    have hlayer : (tideVariables name).layer ReportOverrides.variableStart =
        [("log_dir", .ofText name)] := by
      simp only [Environment.layer, tideVariables, List.filterMap_cons,
        Environment.binding?_folderVariable, List.filterMap_nil]
    rw [hlayer]
    refine List.forall_mem_cons.mpr ⟨?_, List.forall_mem_singleton.mpr ?_⟩
    · rintro v ⟨⟩
    · rintro v ⟨⟩
  have hopen : ({} : ReportOverrides).logDir = none := rfl
  refine ⟨?_, ?_, ?_⟩
  · obtain ⟨-, htext, -⟩ := folder_of_environment hfile (setsFolder_tideVariables "Tide/2024")
      (hflags _) hopen { logPath := some ⟨"Ebb"⟩ }
    exact htext _ (ConfigValue.denotes_iff.mpr (by decide +kernel))
  · obtain ⟨-, htext, -⟩ := folder_of_environment hfile (setsFolder_tideVariables " Tide\t")
      (hflags _) hopen { logPath := some ⟨"Ebb"⟩ }
    exact htext _ (ConfigValue.denotes_iff.mpr (by decide +kernel))
  · obtain ⟨-, -, hother⟩ := folder_of_environment hfile
      (setsFolder_tideVariables "[Tide, [], 'x']") (hflags _) hopen {}
    exact hother .other (ConfigValue.denotes_iff.mpr (by decide +kernel)) (fun t h => by cases h)

/-- A year in the environment is no folder, and quotes around a name get lost, while the command
line takes both as they are. -/
theorem folder_of_environment_altered :
    ReportOverrides.load {} ⟨"c.toml"⟩ (tideVariables "2024") {} = .error .wrongKind ∧
      ReportOverrides.load {} ⟨"c.toml"⟩ (tideVariables "\"Tide\"") {} =
        .ok { logDir := some ⟨"Tide"⟩ } ∧
      ∀ name, ReportOverrides.load {} ⟨"c.toml"⟩ [] { logDir := some ⟨name⟩ } =
        .ok { logDir := some ⟨name⟩ } := by
  refine ⟨?_, ?_, ?_⟩
  · decide +kernel
  · decide +kernel
  · intro name
    rfl

end VariantStrip
