/-
Texts with separators between their pieces.

A piece without separators ends at the first separator (`eq_of_append_separator`), so texts that are
made of such pieces can be taken apart again:

* `Path.components_join` — a path that is joined with a name leads there and then to the name,
* `Date.text_injective` — each day has a text of its own,
* `Report.fileName_inj` — the name of a report file tells the day and the kind of build.
-/
import Mathlib.Data.List.Basic
import VariantStrip.Report

namespace VariantStrip

/-- Pieces without a separator end at the first separator. -/
theorem eq_of_append_separator {α : Type} {a : α} {v w xs ys : List α} (hv : a ∉ v) (hw : a ∉ w)
    (h : v ++ a :: xs = w ++ a :: ys) : v = w ∧ xs = ys := by
  induction v generalizing w with
  | nil =>
    cases w with
    | nil => exact ⟨rfl, (List.cons.inj h).2⟩
    | cons c w =>
      rw [← (List.cons.inj h).1] at hw
      exact absurd List.mem_cons_self hw
  | cons c v ih =>
    cases w with
    | nil =>
      rw [(List.cons.inj h).1] at hv
      exact absurd List.mem_cons_self hv
    | cons c' w =>
      obtain ⟨rfl, hrest⟩ := List.cons.inj h
      obtain ⟨rfl, rfl⟩ := ih (fun hmem => hv (List.mem_cons_of_mem c hmem))
        (fun hmem => hw (List.mem_cons_of_mem c hmem)) hrest
      exact ⟨rfl, rfl⟩

/-- Texts may be compared from their ends. -/
theorem eq_of_reverse_toList {s t : String} (h : s.toList.reverse = t.toList.reverse) : s = t :=
  String.toList_injective (List.reverse_injective h)

/-! ### Paths -/

namespace Path

theorem splitSlashes_ne_nil (piece cs : List Char) : splitSlashes piece cs ≠ [] := by
  induction cs generalizing piece with
  | nil => exact nofun
  | cons c cs ih =>
    rw [splitSlashes]
    split
    · exact nofun
    · exact ih _

theorem splitSlashes_append (piece front rest : List Char) :
    splitSlashes piece (front ++ '/' :: rest) =
      splitSlashes piece front ++ splitSlashes [] rest := by
  induction front generalizing piece with
  | nil => rw [List.nil_append, splitSlashes, splitSlashes, if_pos rfl, List.singleton_append]
  | cons c front ih =>
    rw [List.cons_append, splitSlashes, splitSlashes]
    split
    · rw [ih, List.cons_append]
    · rw [ih]

theorem splitSlashes_of_not_mem {cs : List Char} (hcs : '/' ∉ cs) (piece : List Char) :
    splitSlashes piece cs = [piece.reverse ++ cs] := by
  induction cs generalizing piece with
  | nil => rw [splitSlashes, List.append_nil]
  | cons c cs ih =>
    rw [List.mem_cons, not_or] at hcs
    rw [splitSlashes, if_neg (Ne.symm hcs.1), ih hcs.2, List.reverse_cons, List.append_assoc,
      List.singleton_append]

/-- A name is the text of an entry, which can stand between slashes. -/
structure IsName (name : String) : Prop where
  slash_not_mem : '/' ∉ name.toList
  componentOf? : componentOf? name.toList = some (.entry name.toList)

theorem IsName.ne_nil {name : String} (h : IsName name) : name.toList ≠ [] := by
  intro hnil
  have hname := h.componentOf?
  rw [hnil] at hname
  cases hname

theorem isAbsolute_mk {name : String} (h : IsName name) : isAbsolute ⟨name⟩ = false := by
  rw [isAbsolute, beq_eq_false_iff_ne]
  exact fun hslash => h.slash_not_mem (List.mem_of_mem_head? (Option.mem_def.mpr hslash))

theorem components_mk {name : String} (h : IsName name) :
    components ⟨name⟩ = [.entry name.toList] := by
  have hdot : name.toList ≠ ['.'] := by
    intro hdot
    have hname := h.componentOf?
    rw [hdot] at hname
    cases hname
  rw [components, isAbsolute_mk h, splitSlashes_of_not_mem h.slash_not_mem]
  simp [hdot, h.componentOf?]

/-- What comes after a slash comes after the components in front of it. -/
theorem components_of_append {p q : Path} {front rest : List Char}
    (hp : p.text.toList = front ++ '/' :: rest) (hq : q.text.toList = front ++ ['/']) :
    p.components = q.components ++ (splitSlashes [] rest).filterMap componentOf? := by
  have habsolute : p.isAbsolute = q.isAbsolute := by
    rw [isAbsolute, isAbsolute, hp, hq]
    cases front <;> rfl
  have hfirst (rest : List Char) :
      (splitSlashes [] (front ++ '/' :: rest)).head? = (splitSlashes [] front).head? := by
    rw [splitSlashes_append, List.head?_append_of_ne_nil _ (splitSlashes_ne_nil [] front)]
  have hlast : (splitSlashes [] ([] : List Char)).filterMap componentOf? = [] := rfl
  rw [components, components, habsolute, hp, hq, hfirst, hfirst, splitSlashes_append,
    splitSlashes_append, List.filterMap_append, List.filterMap_append, hlast, List.append_nil,
    List.append_assoc]

/-- A slash at the end does not count. -/
theorem components_of_slash {p q : Path} (hp : p.text.toList = q.text.toList ++ ['/'])
    (hq : q.text.toList ≠ []) : p.components = q.components := by
  have habsolute : p.isAbsolute = q.isAbsolute := by
    rw [isAbsolute, isAbsolute, hp, List.head?_append_of_ne_nil _ hq]
  have hlast : (splitSlashes [] ([] : List Char)).filterMap componentOf? = [] := rfl
  rw [components, components, habsolute, hp, splitSlashes_append, List.filterMap_append, hlast,
    List.append_nil, List.head?_append_of_ne_nil _ (splitSlashes_ne_nil _ _)]

/-- **Joining with a name** adds a step to the entry of that name. -/
theorem components_join (folder : Path) {name : String} (h : IsName name) :
    (folder.join ⟨name⟩).components = folder.components ++ [.entry name.toList] := by
  have hname : (splitSlashes [] name.toList).filterMap Path.componentOf? =
      [.entry name.toList] := by
    rw [splitSlashes_of_not_mem h.slash_not_mem]
    simp [h.componentOf?]
  rw [join, isAbsolute_mk h, if_neg Bool.false_ne_true]
  by_cases hempty : folder.isEmpty = true
  · -- The path without text has no components.
    rw [if_pos hempty, components_mk h]
    have hfolder : folder = ⟨""⟩ := by
      cases folder
      rw [isEmpty, String.isEmpty_iff] at hempty
      exact congrArg Path.mk hempty
    rw [hfolder]
    rfl
  rw [if_neg hempty]
  have hne : folder.text.toList ≠ [] := by
    intro hnil
    refine hempty ?_
    rw [isEmpty, String.isEmpty_iff]
    exact String.toList_injective hnil
  by_cases hslash : folder.text.toList.getLast? = some '/'
  · rw [if_pos hslash]
    have hfront : folder.text.toList = folder.text.toList.dropLast ++ ['/'] :=
      (List.dropLast_append_getLast? '/' (Option.mem_def.mpr hslash)).symm
    have hjoined : (folder.text ++ name).toList =
        folder.text.toList.dropLast ++ '/' :: name.toList := by
      rw [String.toList_append, hfront]
      simp
    rw [components_of_append hjoined hfront, hname]
  · rw [if_neg hslash]
    have hjoined : (folder.text ++ "/" ++ name).toList =
        folder.text.toList ++ '/' :: name.toList := by
      simp
    have hfront : (Path.mk (folder.text ++ "/")).text.toList = folder.text.toList ++ ['/'] := by
      simp
    rw [components_of_append hjoined hfront, components_of_slash hfront hne, hname]

end Path

/-! ### Days -/

theorem toList_padZeros (width n : Nat) : (padZeros width n).toList =
    List.replicate (width - (toString n).length) '0' ++ Nat.toDigits 10 n := by
  rw [padZeros, String.toList_append, String.toList_ofList, Nat.toString_eq_ofList_toDigits,
    String.toList_ofList]

theorem isDigit_of_mem_padZeros {width n : Nat} {c : Char} (hc : c ∈ (padZeros width n).toList) :
    c.isDigit = true := by
  rw [toList_padZeros, List.mem_append] at hc
  rcases hc with hc | hc
  · rw [List.eq_of_mem_replicate hc]
    rfl
  · exact Nat.isDigit_of_mem_toDigits (by decide) (by decide) hc

theorem not_mem_padZeros {c : Char} (hc : c.isDigit = false) (width n : Nat) :
    c ∉ (padZeros width n).toList := by
  intro hmem
  rw [isDigit_of_mem_padZeros hmem] at hc
  cases hc

theorem padZeros_injective (width : Nat) : Function.Injective (padZeros width) := by
  have hread (n : Nat) : Nat.ofDigitChars 10 (padZeros width n).toList 0 = n := by
    rw [toList_padZeros, Nat.ofDigitChars_append, Nat.ofDigitChars_replicate_zero, Nat.mul_zero,
      Nat.ofDigitChars_ten_toDigits]
  intro m n h
  calc
    m = Nat.ofDigitChars 10 (padZeros width m).toList 0 := (hread m).symm
    _ = Nat.ofDigitChars 10 (padZeros width n).toList 0 := by rw [h]
    _ = n := hread n

/-- The sign in front of a year. -/
def yearSign (year : Int) : String :=
  if year < 0 then "-" else if year ≤ 9999 then "" else "+"

theorem yearText_eq (year : Int) : yearText year = yearSign year ++ padZeros 4 year.natAbs := by
  rw [yearText, yearSign]
  split <;> rfl

theorem dash_mem_yearText {year : Int} : '-' ∈ (yearText year).toList ↔ year < 0 := by
  have hdigits := not_mem_padZeros (c := '-') rfl 4 year.natAbs
  rw [yearText_eq, String.toList_append, List.mem_append, or_iff_left hdigits, yearSign]
  split
  · next h => simp [h]
  · next h => split <;> simp [h]

theorem yearText_injective : Function.Injective yearText := by
  intro y z h
  have hsign : y < 0 ↔ z < 0 := by rw [← dash_mem_yearText, ← dash_mem_yearText, h]
  have hnumber (y : Int) :
      (yearText y).toList.filter Char.isDigit = (padZeros 4 y.natAbs).toList := by
    have hnone : (yearSign y).toList.filter Char.isDigit = [] := by
      rw [yearSign]
      split
      · rfl
      · split <;> rfl
    rw [yearText_eq, String.toList_append, List.filter_append, hnone, List.nil_append]
    exact List.filter_eq_self.mpr fun c hc => isDigit_of_mem_padZeros hc
  have habs : y.natAbs = z.natAbs := by
    refine padZeros_injective 4 (String.toList_injective ?_)
    rw [← hnumber y, ← hnumber z, h]
  omega

namespace Date

theorem toList_text (d : Date) : d.text.toList =
    (yearText d.year).toList ++ '-' :: ((padZeros 2 d.month).toList ++
      '-' :: (padZeros 2 d.day).toList) := by
  have htext : d.text = yearText d.year ++ "-" ++ padZeros 2 d.month ++ "-" ++ padZeros 2 d.day :=
    rfl
  rw [htext]
  simp

theorem reverse_text (d : Date) : d.text.toList.reverse =
    (padZeros 2 d.day).toList.reverse ++ '-' :: ((padZeros 2 d.month).toList.reverse ++
      '-' :: (yearText d.year).toList.reverse) := by
  rw [toList_text]
  simp

/-- **Each day has a text of its own.** -/
theorem text_injective : Function.Injective text := by
  rintro ⟨year, month, day⟩ ⟨year', month', day'⟩ h
  -- A year may begin with a dash, so the text is read from its end.
  have hreverse := congrArg (fun s : String => s.toList.reverse) h
  simp only [reverse_text] at hreverse
  have hdash (n : Nat) : '-' ∉ (padZeros 2 n).toList.reverse := by
    rw [List.mem_reverse]
    exact not_mem_padZeros rfl 2 n
  obtain ⟨hday, hrest⟩ := eq_of_append_separator (hdash day) (hdash day') hreverse
  obtain ⟨hmonth, hyear⟩ := eq_of_append_separator (hdash month) (hdash month') hrest
  rw [yearText_injective (eq_of_reverse_toList hyear),
    padZeros_injective 2 (eq_of_reverse_toList hmonth),
    padZeros_injective 2 (eq_of_reverse_toList hday)]

theorem not_mem_text {c : Char} (hdigit : c.isDigit = false) (hminus : c ≠ '-') (hplus : c ≠ '+')
    (d : Date) : c ∉ d.text.toList := by
  have hsign : c ∉ (yearSign d.year).toList := by
    rw [yearSign]
    split
    · simpa using hminus
    · split
      · exact List.not_mem_nil
      · simpa using hplus
  rw [toList_text, yearText_eq, String.toList_append]
  simp only [List.mem_append, List.mem_cons, hminus, hsign, not_mem_padZeros hdigit, or_self,
    not_false_eq_true]

end Date

/-! ### Report files -/

namespace Report

theorem toList_fileName (r : Report) (today : Date) : (r.fileName today).toList =
    "ShaderStripLog_".toList ++ (today.text.toList ++ (r.kind.suffix.toList ++ ".log".toList)) := by
  have hname : r.fileName today = "ShaderStripLog_" ++ today.text ++ r.kind.suffix ++ ".log" := rfl
  rw [hname]
  simp only [String.toList_append, List.append_assoc]

theorem isName_fileName (r : Report) (today : Date) : Path.IsName (r.fileName today) where
  slash_not_mem := by
    have hday := Date.not_mem_text (c := '/') rfl (by decide) (by decide) today
    have hkind : '/' ∉ r.kind.suffix.toList := by
      cases r.kind <;> decide
    rw [toList_fileName]
    simp [hday, hkind]
  componentOf? := by
    rw [toList_fileName]
    simp [Path.componentOf?]

/-- **The name of a report file** tells the day and the kind of build. -/
theorem fileName_inj {r r' : Report} {today today' : Date} :
    r.fileName today = r'.fileName today' ↔ r.kind = r'.kind ∧ today = today' := by
  constructor
  · intro h
    have hname := congrArg String.toList h
    rw [toList_fileName, toList_fileName] at hname
    have hlist := List.append_cancel_left hname
    -- The suffix begins with an underscore, and there is none in the text of a day.
    have hsuffix (kind : BuildKind) : ∃ rest, kind.suffix.toList = '_' :: rest := by
      cases kind <;> exact ⟨_, rfl⟩
    obtain ⟨rest, hrest⟩ := hsuffix r.kind
    obtain ⟨rest', hrest'⟩ := hsuffix r'.kind
    rw [hrest, hrest'] at hlist
    have hunderscore := Date.not_mem_text (c := '_') rfl (by decide) (by decide)
    obtain ⟨hday, hkind⟩ :=
      eq_of_append_separator (hunderscore today) (hunderscore today') hlist
    refine ⟨?_, Date.text_injective (String.toList_injective hday)⟩
    have hsame : r.kind.suffix = r'.kind.suffix := by
      refine String.toList_injective ?_
      rw [hrest, hrest', List.append_cancel_right hkind]
    revert hsame
    cases r.kind <;> cases r'.kind <;> decide
  · rintro ⟨hkind, rfl⟩
    refine String.toList_injective ?_
    rw [toList_fileName, toList_fileName, hkind]

end Report

end VariantStrip
