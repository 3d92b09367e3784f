/-
How a disk changes while files are written and folders are made.

Nothing is ever removed: folders stay folders, and files stay files with their texts, except at the
places that are written (`Disk.Grows`).  So whatever a path has led to, it goes on leading to:

* `Disk.Grows.locate`, `Disk.Grows.read` — a path that leads somewhere, or that is refused, is
  followed in the same way later on,
* `Disk.grows_write`, `Disk.grows_makeFolders` — each step of writing lets the disk grow, and so do
  both of them together (`Disk.grows_writeInto`),
* `Disk.makeFolders_again` — folders that have been asked for once are not made a second time.
-/
import VariantStrip.Disk
import VariantStrip.Proofs.Fallible

namespace VariantStrip.Disk

/-- The disk goes on from one to the other: what lies on it stays there and stays a file or a
folder, and only what is at a written place may change. -/
structure Grows (written : Place → Prop) (d d' : Disk) : Prop where
  current : d'.current = d.current
  node : ∀ p n, d.node? p = some n →
    ∃ n', d'.node? p = some n' ∧ (n' = .folder ↔ n = .folder) ∧ (n' = n ∨ written p)

/-- The same files and folders, seen from some folder. -/
def seenFrom (d : Disk) (f : Place) : Disk := { d with current := f }

/-- The places that some paths lead to. -/
def Among (d : Disk) (ps : List Path) (place : Place) : Prop := ∃ p ∈ ps, d.locate p = .ok place

/-- Two paths do not lead to one place. -/
def Apart (d : Disk) (p q : Path) : Prop := ∀ place, d.locate p = .ok place → d.locate q ≠ .ok place

/-- A file can be written: its path leads to a place where there is no folder. -/
def Writable (d : Disk) (p : Path) : Prop :=
  ∃ place, d.locate p = .ok place ∧ d.node? place ≠ some .folder

variable {written : Place → Prop} {d d' : Disk}

/-! ### Growing -/

namespace Grows

theorem refl (written : Place → Prop) (d : Disk) : Grows written d d where
  current := rfl
  node _ n hn := ⟨n, hn, .rfl, .inl rfl⟩

theorem trans {d'' : Disk} (h : Grows written d d') (h' : Grows written d' d'') :
    Grows written d d'' where
  current := h'.current.trans h.current
  node p n hn := by
    obtain ⟨n', hn', hkind', hsame'⟩ := h.node p n hn
    obtain ⟨n'', hn'', hkind'', hsame''⟩ := h'.node p n' hn'
    refine ⟨n'', hn'', hkind''.trans hkind', ?_⟩
    rcases hsame' with rfl | hwritten
    · exact hsame''
    · exact .inr hwritten

theorem mono {written' : Place → Prop} (h : Grows written d d')
    (hwritten : ∀ p, written p → written' p) : Grows written' d d' where
  current := h.current
  node p n hn := by
    obtain ⟨n', hn', hkind, hsame⟩ := h.node p n hn
    exact ⟨n', hn', hkind, hsame.imp_right (hwritten p)⟩

theorem seenFrom (h : Grows written d d') (f : Place) :
    Grows written (d.seenFrom f) (d'.seenFrom f) where
  current := rfl
  node := h.node

theorem folder (h : Grows written d d') {p : Place} (hp : d.node? p = some .folder) :
    d'.node? p = some .folder := by
  obtain ⟨n', hn', hkind, -⟩ := h.node p _ hp
  rwa [hkind.mpr rfl] at hn'

theorem not_folder (h : Grows written d d') {p : Place} {n : DiskNode} (hp : d.node? p = some n)
    (hn : n ≠ .folder) : ∃ n', d'.node? p = some n' ∧ n' ≠ .folder := by
  obtain ⟨n', hn', hkind, -⟩ := h.node p n hp
  exact ⟨n', hn', mt hkind.mp hn⟩

/-- A place that is not written keeps what lies there. -/
theorem same (h : Grows written d d') {p : Place} {n : DiskNode} (hp : d.node? p = some n)
    (hwritten : ¬ written p) : d'.node? p = some n := by
  obtain ⟨n', hn', -, rfl | hp'⟩ := h.node p n hp
  · exact hn'
  · exact absurd hp' hwritten

end Grows

/-! ### Following paths -/

/-- What has not come to nothing comes to the same later on. -/
def Persists {α : Type} (before after : Except DiskFault α) : Prop :=
  before ≠ .error .notFound → after = before

theorem Persists.refl {α : Type} (x : Except DiskFault α) : Persists x x := fun _ => rfl

theorem Persists.bind {α β : Type} {x x' : Except DiskFault α} {f f' : α → Except DiskFault β}
    (hx : Persists x x') (hf : ∀ a, x = .ok a → Persists (f a) (f' a)) :
    Persists (x >>= f) (x' >>= f') := by
  intro hfound
  cases x with
  | error e =>
    rw [hx fun h => hfound (by rw [h]; rfl)]
    rfl
  | ok a =>
    rw [hx nofun]
    exact hf a rfl hfound

namespace Grows

theorem needFolder (h : Grows written d d') (p : Place) :
    Persists (d.needFolder p) (d'.needFolder p) := by
  intro hp
  rw [Disk.needFolder] at hp
  rw [Disk.needFolder, Disk.needFolder]
  cases hnode : d.node? p with
  | none => simp [hnode] at hp
  | some n =>
    obtain ⟨n', hn', hkind, -⟩ := h.node p n hnode
    rw [hn']
    cases n <;> cases n' <;> simp at hkind ⊢

theorem follow (h : Grows written d d') (p : Place) (cs : List Path.Component) :
    Persists (d.follow p cs) (d'.follow p cs) := by
  induction cs generalizing p with
  | nil => exact .refl _
  | cons c cs ih => exact (h.needFolder p).bind fun _ _ => (Persists.refl _).bind fun q _ => ih q

theorem placeOf (h : Grows written d d') (cs : List Path.Component) :
    Persists (d.placeOf cs) (d'.placeOf cs) := by
  rw [Disk.placeOf, Disk.placeOf, h.current]
  exact h.follow d.current cs

theorem placeOf_ok (h : Grows written d d') {cs : List Path.Component} {place : Place}
    (hcs : d.placeOf cs = .ok place) : d'.placeOf cs = .ok place := by
  rw [h.placeOf cs (by rw [hcs]; exact nofun), hcs]

/-- A path that leads somewhere, or that is refused, is followed in the same way. -/
theorem locate (h : Grows written d d') (p : Path) : Persists (d.locate p) (d'.locate p) := by
  rw [Disk.locate, Disk.locate]
  by_cases hempty : p.isEmpty = true
  · rw [if_pos hempty, if_pos hempty]
    exact .refl _
  rw [if_neg hempty, if_neg hempty]
  refine (h.placeOf p.components).bind fun place _ => ?_
  by_cases hfolder : asksFolder p = true
  · rw [if_pos hfolder, if_pos hfolder]
    exact (h.needFolder place).bind fun _ _ => .refl _
  · rw [if_neg hfolder, if_neg hfolder]
    exact .refl _

theorem locate_ok (h : Grows written d d') {p : Path} {place : Place}
    (hp : d.locate p = .ok place) : d'.locate p = .ok place := by
  rw [h.locate p (by rw [hp]; exact nofun), hp]

/-- A file that is not written reads the same. -/
theorem read (h : Grows written d d') {p : Path}
    (hwritten : ∀ place, d'.locate p = .ok place → ¬ written place) :
    Persists (d.read p) (d'.read p) := by
  rw [Disk.read, Disk.read]
  refine (h.locate p).bind fun place hplace hfound => ?_
  cases hnode : d.node? place with
  | none =>
    rw [hnode] at hfound
    exact absurd rfl hfound
  | some n => rw [h.same hnode (hwritten place (h.locate_ok hplace))]

end Grows

theorem isFile_iff {p : Path} : d.isFile p = true ↔
    ∃ place n, d.locate p = .ok place ∧ d.node? place = some n ∧ n ≠ .folder := by
  rw [isFile]
  cases d.locate p with
  | error e => simp
  | ok place =>
    cases hnode : d.node? place with
    | none => simp [hnode]
    | some n => cases n <;> simp [hnode]

theorem read_of_locate {p : Path} {place : Place} (hplace : d.locate p = .ok place) :
    d.read p = match d.node? place with
      | some (.file text) => .ok text
      | some .blob => .error .notText
      | some .folder => .error .isFolder
      | none => .error .notFound := by
  rw [read, hplace]
  rfl

/-- Where a path leads to nothing, there is no file. -/
theorem isFile_of_read {p : Path} (hp : d.read p = .error .notFound) : d.isFile p = false := by
  rw [Bool.eq_false_iff, Ne, isFile_iff]
  rintro ⟨place, n, hplace, hnode, hn⟩
  rw [read_of_locate hplace, hnode] at hp
  cases n <;> cases hp

/-- A file stays a file. -/
theorem Grows.isFile (h : Grows written d d') {p : Path} (hp : d.isFile p = true) :
    d'.isFile p = true := by
  obtain ⟨place, n, hplace, hnode, hn⟩ := isFile_iff.mp hp
  obtain ⟨n', hnode', hn'⟩ := h.not_folder hnode hn
  exact isFile_iff.mpr ⟨place, n', h.locate_ok hplace, hnode', hn'⟩

/-- **Looking upwards.**  A file that is looked for in the current folder and in those above it is
found again, if it is not written and no other file has come in its way. -/
theorem Grows.readUpwards (h : Grows written d d') {p : Path}
    (hwritten : ∀ f, f <+: d.current →
      ∀ place, (d'.seenFrom f).locate p = .ok place → ¬ written place)
    (hnone : ∀ f, f <+: d.current →
      (d.seenFrom f).isFile p = false → (d'.seenFrom f).isFile p = false) :
    d'.readUpwards p = d.readUpwards p := by
  let folder (k : Nat) : Place := d.current.take (d.current.length - k)
  have hupwards : d.upwards = (List.range (d.current.length + 1)).map fun k =>
      d.seenFrom (folder k) := rfl
  have hupwards' : d'.upwards = (List.range (d.current.length + 1)).map fun k =>
      d'.seenFrom (folder k) := by
    rw [upwards, h.current]
    rfl
  have habove (k : Nat) : folder k <+: d.current := List.take_prefix _ _
  have hfile : (fun k => (d'.seenFrom (folder k)).isFile p) =
      fun k => (d.seenFrom (folder k)).isFile p := by
    funext k
    cases hk : (d.seenFrom (folder k)).isFile p with
    | true => exact (h.seenFrom _).isFile hk
    | false => exact hnone _ (habove k) hk
  rw [Disk.readUpwards, Disk.readUpwards, hupwards, hupwards', List.find?_map, List.find?_map]
  simp only [Function.comp_def, hfile]
  cases hfound : (List.range (d.current.length + 1)).find? fun k =>
      (d.seenFrom (folder k)).isFile p with
  | none => rfl
  | some k =>
    refine (h.seenFrom _).read (hwritten _ (habove k)) fun hmissing => ?_
    have hk := List.find?_some hfound
    rw [isFile_of_read hmissing] at hk
    cases hk

/-- The places that paths lead to stay. -/
theorem Grows.among (h : Grows written d d') {ps : List Path} {place : Place}
    (hplace : d.Among ps place) : d'.Among ps place := by
  obtain ⟨p, hp, hlocate⟩ := hplace
  exact ⟨p, hp, h.locate_ok hlocate⟩

/-- What is written in two steps is what is written in each of them. -/
theorem Grows.trans_among {d'' : Disk} {ps qs : List Path} (h : Grows (d'.Among ps) d d')
    (h' : Grows (d''.Among qs) d' d'') : Grows (d''.Among (ps ++ qs)) d d'' := by
  refine (h.mono fun place hplace => ?_).trans (h'.mono fun place hplace => ?_)
  · obtain ⟨p, hp, hlocate⟩ := h'.among hplace
    exact ⟨p, List.mem_append_left _ hp, hlocate⟩
  · obtain ⟨p, hp, hlocate⟩ := hplace
    exact ⟨p, List.mem_append_right _ hp, hlocate⟩

/-! ### Writing -/

theorem lookup_put (p : Place) (n : DiskNode) (entries : List (Place × DiskNode)) (q : Place) :
    (put p n entries).lookup q = if q = p then some n else entries.lookup q := by
  induction entries with
  | nil =>
    by_cases hq : q = p
    · rw [if_pos hq, hq, put, List.lookup_cons_self]
    · rw [if_neg hq, put, List.lookup_cons, beq_eq_false_iff_ne.mpr hq]
  | cons e entries ih =>
    obtain ⟨r, m⟩ := e
    by_cases hr : r = p
    · subst hr
      rw [put, if_pos rfl, List.lookup_cons, List.lookup_cons]
      by_cases hq : q = r
      · rw [if_pos hq, beq_iff_eq.mpr hq]
      · rw [if_neg hq, beq_eq_false_iff_ne.mpr hq]
    · rw [put, if_neg hr, List.lookup_cons, List.lookup_cons, ih]
      by_cases hq : q = r
      · have hqp : ¬ q = p := fun h => hr (hq.symm.trans h)
        rw [beq_iff_eq.mpr hq, if_neg hqp, if_neg hqp]
      · rw [beq_eq_false_iff_ne.mpr hq]

theorem node?_nil (d : Disk) : d.node? [] = some .folder := rfl

/-- What lies on a disk after something has been put on it. -/
theorem node?_put {p : Place} (hp : p ≠ []) (n : DiskNode) (q : Place) :
    node? { d with entries := put p n d.entries } q = if q = p then some n else d.node? q := by
  cases q with
  | nil => rw [if_neg hp.symm, node?_nil, node?_nil]
  | cons name q => exact lookup_put p n d.entries (name :: q)

/-- Writing a file puts its text at the place that its path leads to. -/
theorem write_ok {p : Path} {text : String} (hok : d.write p text = .ok d') :
    ∃ place, d.locate p = .ok place ∧ d.node? place ≠ some .folder ∧ d'.current = d.current ∧
      ∀ q, d'.node? q = if q = place then some (.file text) else d.node? q := by
  rw [write] at hok
  obtain ⟨place, hplace, hput⟩ := bind_eq_ok_iff.mp hok
  have hfile : d.node? place ≠ some .folder := by
    intro hfolder
    rw [hfolder] at hput
    cases hput
  have hroot : place ≠ [] := by
    rintro rfl
    exact hfile d.node?_nil
  have hd' : d' = { d with entries := put place (.file text) d.entries } := by
    split at hput
    · next h => exact absurd h hfile
    · exact (Except.ok.inj hput).symm
  subst hd'
  exact ⟨place, hplace, hfile, rfl, node?_put hroot _⟩

theorem Writable.write {p : Path} (hp : d.Writable p) (text : String) :
    ∃ d', d.write p text = .ok d' := by
  obtain ⟨place, hplace, hfile⟩ := hp
  refine ⟨{ d with entries := put place (.file text) d.entries },
    bind_eq_ok_iff.mpr ⟨place, hplace, ?_⟩⟩
  split
  · next h => exact absurd h hfile
  · rfl

/-- Writing a file changes that file only. -/
theorem grows_write {p : Path} {text : String} (hok : d.write p text = .ok d') :
    Grows (d'.Among [p]) d d' := by
  obtain ⟨place, hplace, hfile, hcurrent, hnode⟩ := write_ok hok
  have hgrows : Grows (· = place) d d' := by
    refine ⟨hcurrent, fun q n hn => ?_⟩
    rw [hnode]
    by_cases hq : q = place
    · subst hq
      refine ⟨.file text, if_pos rfl, ?_, .inr rfl⟩
      exact iff_of_false nofun fun h => hfile (h ▸ hn)
    · exact ⟨n, by rw [if_neg hq, hn], .rfl, .inl rfl⟩
  exact hgrows.mono fun q hq => ⟨p, List.mem_singleton_self p, hq ▸ hgrows.locate_ok hplace⟩

/-- A file that has been written reads as its text, as long as nothing else is written there. -/
theorem read_of_write {d'' : Disk} {p : Path} {text : String} (hok : d.write p text = .ok d')
    (h : Grows written d' d'') (hwritten : ∀ place, d''.locate p = .ok place → ¬ written place) :
    d''.read p = .ok text := by
  obtain ⟨place, hplace, -, -, hnode⟩ := write_ok hok
  have hplace' := h.locate_ok ((grows_write hok).locate_ok hplace)
  rw [read_of_locate hplace', h.same (by rw [hnode, if_pos rfl]) (hwritten place hplace')]

/-! ### Making folders -/

theorem makeFolder_ok {cs : List Path.Component} (hok : d.makeFolder cs = .ok d') :
    ∃ place, d.placeOf cs = .ok place ∧ d.node? place = none ∧ d'.current = d.current ∧
      ∀ q, d'.node? q = if q = place then some .folder else d.node? q := by
  rw [makeFolder] at hok
  obtain ⟨place, hplace, hput⟩ := bind_eq_ok_iff.mp hok
  cases hnode : d.node? place with
  | some n =>
    rw [hnode] at hput
    cases hput
  | none =>
    rw [hnode] at hput
    cases hput
    refine ⟨place, hplace, hnode, rfl, node?_put ?_ _⟩
    rintro rfl
    cases hnode

theorem makeFolder_of_placeOf {cs : List Path.Component} {place : Place}
    (hplace : d.placeOf cs = .ok place) :
    d.makeFolder cs = match d.node? place with
      | some _ => .error .occupied
      | none => .ok { d with entries := put place .folder d.entries } := by
  rw [makeFolder, hplace]
  rfl

theorem makeFolder_of_some {cs : List Path.Component} {place : Place} {n : DiskNode}
    (hplace : d.placeOf cs = .ok place) (hnode : d.node? place = some n) :
    d.makeFolder cs = .error .occupied := by
  rw [makeFolder_of_placeOf hplace, hnode]

theorem grows_makeFolder {cs : List Path.Component} (hok : d.makeFolder cs = .ok d') :
    Grows written d d' := by
  obtain ⟨place, hplace, hnone, hcurrent, hnode⟩ := makeFolder_ok hok
  refine ⟨hcurrent, fun q n hn => ⟨n, ?_, .rfl, .inl rfl⟩⟩
  rw [hnode, if_neg, hn]
  rintro rfl
  rw [hnone] at hn
  cases hn

/-- Making folders adds folders and changes nothing else. -/
theorem grows_makeFolders (d : Disk) (cs : List Path.Component) :
    Grows written d (d.makeFolders cs).2 := by
  fun_induction makeFolders d cs with
  | case1 => exact .refl written _
  | case2 cs _ d' hmade => exact grows_makeFolder hmade
  -- In the next four cases the folder above is made first, as far as possible.
  | case3 cs _ _ e d' hmade ih =>
    rw [hmade] at ih
    exact ih
  | case4 cs _ _ d' hmade d'' hlast ih =>
    rw [hmade] at ih
    exact ih.trans (grows_makeFolder hlast)
  | case5 cs _ _ d' hmade _ _ _ ih =>
    rw [hmade] at ih
    exact ih
  | case6 cs _ _ d' hmade _ _ _ ih =>
    rw [hmade] at ih
    exact ih
  | case7 => exact .refl written _
  | case8 => exact .refl written _

/-- A file is written into a folder by making the folders above it and then writing it. -/
theorem writeInto_ok {p : Path} {text : String} (hok : d.writeInto p text = (.ok (), d')) :
    ∃ d₁ : Disk, (∀ written, Grows written d d₁) ∧ d₁.write p text = .ok d' := by
  rw [writeInto] at hok
  split at hok
  · cases hok
  · next d₁ hd₁ =>
    have hmade (written : Place → Prop) : Grows written d d₁ := by
      cases hparent : p.parent? with
      | none =>
        rw [hparent] at hd₁
        cases hd₁
        exact .refl written d
      | some folder =>
        have hgrows : Grows written d (d.createFolders folder).2 := grows_makeFolders d _
        rw [hparent] at hd₁
        dsimp only at hd₁
        rwa [hd₁] at hgrows
    cases hwrite : d₁.write p text with
    | error fault =>
      rw [hwrite] at hok
      cases hok
    | ok d₂ =>
      rw [hwrite] at hok
      cases hok
      exact ⟨d₁, hmade, hwrite⟩

theorem grows_writeInto {p : Path} {text : String} (hok : d.writeInto p text = (.ok (), d')) :
    Grows (d'.Among [p]) d d' := by
  obtain ⟨d₁, hmade, hwrite⟩ := writeInto_ok hok
  exact (hmade _).trans (grows_write hwrite)

/-- A file that has been written into a folder reads as its text. -/
theorem read_of_writeInto {p : Path} {text : String} (hok : d.writeInto p text = (.ok (), d')) :
    d'.read p = .ok text := by
  obtain ⟨d₁, -, hwrite⟩ := writeInto_ok hok
  exact read_of_write hwrite (.refl (fun _ => False) d') fun _ _ => id

theorem isFolder_iff {cs : List Path.Component} :
    d.isFolder cs = true ↔ ∃ place, d.placeOf cs = .ok place ∧ d.node? place = some .folder := by
  rw [isFolder]
  cases d.placeOf cs <;> simp

/-- There is a folder already. -/
theorem Grows.isFolder (h : Grows written d d') {cs : List Path.Component}
    (hcs : d.isFolder cs = true) : d'.isFolder cs = true := by
  obtain ⟨place, hplace, hfolder⟩ := isFolder_iff.mp hcs
  exact isFolder_iff.mpr ⟨place, h.placeOf_ok hplace, h.folder hfolder⟩

/-- A folder that is there is not made again. -/
theorem makeFolders_of_isFolder {cs : List Path.Component} (hcs : d.isFolder cs = true) :
    d.makeFolders cs = (.ok (), d) := by
  obtain ⟨place, hplace, hfolder⟩ := isFolder_iff.mp hcs
  rw [makeFolders, makeFolder_of_some hplace hfolder]
  by_cases hnil : cs.isEmpty = true
  · rw [if_pos hnil]
  · rw [if_neg hnil]
    exact if_pos hcs

theorem isFolder_of_makeFolder {cs : List Path.Component} (hok : d.makeFolder cs = .ok d') :
    d'.isFolder cs = true := by
  obtain ⟨place, hplace, -, -, hnode⟩ := makeFolder_ok hok
  have hgrows : Grows (fun _ => False) d d' := grows_makeFolder hok
  exact isFolder_iff.mpr ⟨place, hgrows.placeOf_ok hplace, by rw [hnode, if_pos rfl]⟩

/-- Folders that have been made are there. -/
theorem isFolder_of_makeFolders (hhere : d.node? d.current = some .folder)
    {cs : List Path.Component} (hok : (d.makeFolders cs).1 = .ok ()) :
    (d.makeFolders cs).2.isFolder cs = true := by
  revert hok
  fun_cases makeFolders d cs with
  | case1 hnil =>
    rw [List.isEmpty_iff.mp hnil]
    exact fun _ => isFolder_iff.mpr ⟨d.current, rfl, hhere⟩
  | case2 _ d' hmade => exact fun _ => isFolder_of_makeFolder hmade
  | case3 => exact nofun
  | case4 _ d' _ _ d'' hmade => exact fun _ => isFolder_of_makeFolder hmade
  | case5 => exact fun _ => ‹_›
  | case6 => exact nofun
  | case7 => exact fun _ => ‹_›
  | case8 => exact nofun

/-- A folder that cannot be made for a lasting reason cannot be made later on. -/
theorem Grows.makeFolder_error (h : Grows written d d') {cs : List Path.Component}
    (hcs : d.isFolder cs = false) {e : DiskFault} (herror : d.makeFolder cs = .error e)
    (hlasting : e ≠ .notFound) : d'.makeFolder cs = .error e ∧ d'.isFolder cs = false := by
  cases hplace : d.placeOf cs with
  | error cause =>
    have hcause : cause = e := by
      rw [makeFolder, hplace] at herror
      exact Except.error.inj herror
    have hlater : d'.placeOf cs = .error e := by
      rw [h.placeOf cs (by rw [hplace, hcause]; exact fun h => hlasting (Except.error.inj h)),
        hplace, hcause]
    refine ⟨?_, ?_⟩
    · rw [makeFolder, hlater]
      rfl
    · rw [Disk.isFolder, hlater]
  | ok place =>
    have hlater : d'.placeOf cs = .ok place := h.placeOf_ok hplace
    cases hnode : d.node? place with
    | none =>
      have hmade : d.makeFolder cs = .ok { d with entries := put place .folder d.entries } := by
        rw [makeFolder_of_placeOf hplace, hnode]
      rw [hmade] at herror
      cases herror
    | some n =>
      have hn : n ≠ .folder := by
        rintro rfl
        rw [isFolder_iff.mpr ⟨place, hplace, hnode⟩] at hcs
        cases hcs
      obtain ⟨n', hn', hfile⟩ := h.not_folder hnode hn
      rw [makeFolder_of_some hplace hnode] at herror
      rw [makeFolder_of_some hlater hn', ← herror]
      refine ⟨rfl, ?_⟩
      rw [Bool.eq_false_iff, Ne, isFolder_iff, hlater]
      rintro ⟨_, ⟨⟩, hfolder⟩
      rw [hn'] at hfolder
      exact hfile (Option.some.inj hfolder)

theorem follow_append (p : Place) (cs cs' : List Path.Component) :
    d.follow p (cs ++ cs') = d.follow p cs >>= fun q => d.follow q cs' := by
  induction cs generalizing p with
  | nil => rfl
  | cons c cs ih =>
    simp only [List.cons_append, follow]
    cases d.needFolder p with
    | error e => rfl
    | ok u =>
      cases enter p c with
      | error e => rfl
      | ok q => exact ih q

theorem enter_ne_notFound (p : Place) (c : Path.Component) : enter p c ≠ .error .notFound := by
  cases c with
  | entry name =>
    rw [enter]
    split <;> nofun
  | _ => nofun

section

variable {cs : List Path.Component} {e : DiskFault} (hcs : cs ≠ [])

include hcs

/-- The last step starts from a folder. -/
theorem isFolder_dropLast {place : Place} (hplace : d.placeOf cs = .ok place) :
    d.isFolder cs.dropLast = true := by
  rw [← List.dropLast_append_getLast hcs, placeOf, follow_append] at hplace
  obtain ⟨q, hq, hlast⟩ := bind_eq_ok_iff.mp hplace
  obtain ⟨_, hfolder, -⟩ := bind_eq_ok_iff.mp hlast
  refine isFolder_iff.mpr ⟨q, hq, ?_⟩
  rw [needFolder] at hfolder
  split at hfolder
  · next h => exact h
  · cases hfolder
  · cases hfolder

/-- In a folder a folder can be made, or there is a lasting reason against it. -/
theorem makeFolder_ne_notFound (hfolder : d.isFolder cs.dropLast = true) :
    d.makeFolder cs ≠ .error .notFound := by
  obtain ⟨q, hq, hnode⟩ := isFolder_iff.mp hfolder
  obtain ⟨c, hc⟩ : ∃ c, cs = cs.dropLast ++ [c] := ⟨_, (List.dropLast_append_getLast hcs).symm⟩
  have hlast : d.placeOf cs = enter q c := by
    have hneed : d.needFolder q = .ok () := by rw [needFolder, hnode]
    have hstep : d.follow q [c] = enter q c := by
      rw [follow, hneed]
      cases enter q c <;> rfl
    rw [placeOf] at hq
    rw [hc, placeOf, follow_append, hq]
    exact hstep
  cases hplace : d.placeOf cs with
  | error e =>
    have he : e ≠ .notFound := by
      rintro rfl
      exact enter_ne_notFound q c (hlast.symm.trans hplace)
    rw [makeFolder, hplace]
    exact fun h => he (Except.error.inj h)
  | ok place =>
    rw [makeFolder_of_placeOf hplace]
    cases d.node? place <;> nofun

theorem makeFolders_of_lasting (herror : d.makeFolder cs = .error e) (hlasting : e ≠ .notFound)
    (hfolder : d.isFolder cs = false) : d.makeFolders cs = (.error e, d) := by
  rw [makeFolders, if_neg (mt List.isEmpty_iff.mp hcs), herror]
  split
  · next h => cases h
  · next h => exact absurd (Except.error.inj h) hlasting
  · next h =>
    rw [hfolder, Except.error.inj h]
    rfl

/-- Where the folder above is not there and cannot be made, nothing is made. -/
theorem makeFolders_of_stuck (habove : d.makeFolders cs.dropLast = (.error e, d)) :
    ∃ e', d.makeFolders cs = (.error e', d) := by
  have hmissing : d.isFolder cs.dropLast = false := by
    rw [Bool.eq_false_iff]
    intro hfolder
    rw [makeFolders_of_isFolder hfolder] at habove
    cases habove
  have hnowhere (place : Place) : d.placeOf cs ≠ .ok place := by
    intro hplace
    rw [isFolder_dropLast hcs hplace] at hmissing
    cases hmissing
  have hfolder : d.isFolder cs = false := by
    rw [Bool.eq_false_iff, Ne, isFolder_iff]
    exact fun ⟨place, hplace, _⟩ => hnowhere place hplace
  cases hmade : d.makeFolder cs with
  | ok d' =>
    obtain ⟨place, hplace, -⟩ := makeFolder_ok hmade
    exact absurd hplace (hnowhere place)
  | error e' =>
    by_cases hlasting : e' = .notFound
    · refine ⟨e, ?_⟩
      rw [makeFolders, if_neg (mt List.isEmpty_iff.mp hcs), hmade, hlasting, habove]
    · exact ⟨e', makeFolders_of_lasting hcs hmade hlasting hfolder⟩

end

/-- **Folders that have been asked for are not made again.**  On a disk that has grown since, making
them changes nothing, and if they could be made they are there. -/
theorem makeFolders_again (hhere : d.node? d.current = some .folder) {cs : List Path.Component}
    (h : Grows written (d.makeFolders cs).2 d') :
    (d'.makeFolders cs).2 = d' ∧
      ((d'.makeFolders cs).1 = .ok () ↔ (d.makeFolders cs).1 = .ok ()) := by
  have hdone {cs : List Path.Component} {d : Disk} (h : Grows written d d')
      (hcs : d.isFolder cs = true) : d'.makeFolders cs = (.ok (), d') :=
    makeFolders_of_isFolder (h.isFolder hcs)
  revert h
  fun_induction makeFolders d cs with
  | case1 cs hnil =>
    intro _
    rw [makeFolders, if_pos hnil]
    exact ⟨rfl, .rfl⟩
  | case2 cs _ d₁ hmade =>
    intro h
    rw [hdone h (isFolder_of_makeFolder hmade)]
    exact ⟨rfl, .rfl⟩
  | case3 cs hnil hmissing e d₁ habove ih =>
    -- The folder above could not be made, and it still cannot.
    intro h
    have hcs : cs ≠ [] := mt List.isEmpty_iff.mpr hnil
    rw [habove] at ih
    obtain ⟨hsame, hfailed⟩ := ih h
    cases hrest : (d'.makeFolders cs.dropLast).1 with
    | ok u => cases hfailed.mp hrest
    | error e' =>
      obtain ⟨e'', hstuck⟩ := makeFolders_of_stuck hcs (Prod.ext hrest hsame)
      rw [hstuck]
      exact ⟨rfl, iff_of_false nofun nofun⟩
  | case4 cs _ _ d₁ habove d₂ hmade ih =>
    intro h
    rw [hdone h (isFolder_of_makeFolder hmade)]
    exact ⟨rfl, .rfl⟩
  | case5 cs _ _ d₁ habove _ _ hfolder ih =>
    intro h
    rw [hdone h hfolder]
    exact ⟨rfl, .rfl⟩
  | case6 cs hnil hmissing d₁ habove e hfailed hfolder ih =>
    -- The folder above is there, so there is a lasting reason against this one.
    intro h
    have hcs : cs ≠ [] := mt List.isEmpty_iff.mpr hnil
    have habove' : d₁.isFolder cs.dropLast = true := by
      have hok : (d.makeFolders cs.dropLast).1 = .ok () := by rw [habove]
      have hmade := isFolder_of_makeFolders hhere hok
      rwa [habove] at hmade
    have hlasting : e ≠ .notFound := by
      rintro rfl
      exact makeFolder_ne_notFound hcs habove' hfailed
    obtain ⟨hagain, hfolder'⟩ :=
      h.makeFolder_error (Bool.eq_false_iff.mpr hfolder) hfailed hlasting
    rw [makeFolders_of_lasting hcs hagain hlasting hfolder']
    exact ⟨rfl, .rfl⟩
  | case7 cs _ _ _ _ hfolder =>
    intro h
    rw [hdone h hfolder]
    exact ⟨rfl, .rfl⟩
  | case8 cs hnil e hlasting hfailed hfolder =>
    intro h
    obtain ⟨hagain, hfolder'⟩ :=
      h.makeFolder_error (Bool.eq_false_iff.mpr hfolder) hfailed hlasting
    rw [makeFolders_of_lasting (mt List.isEmpty_iff.mpr hnil) hagain hlasting hfolder']
    exact ⟨rfl, .rfl⟩

end VariantStrip.Disk
