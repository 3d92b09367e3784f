/-
How the votes of a rule on catalogs depend on its catalogs and its options.

* `Surroundings.catalogVoter_eq` — the catalogs that are found are all that preparing gives to the
  rule,
* `Surroundings.votes_of_catalogVoter` — the rule keeps what `CatalogOptions.Keeps` says, and strips
  everything else,
* `CatalogOptions.Keeps.of_covers`, `CatalogOptions.Keeps.relaxed` — more catalogs keep more, and so
  do looser options,
* `value_loadCatalogs_missing` — a catalog that does not exist makes no difference.

The main result is `catalogs_only_keep_more`.
-/
import VariantStrip.Proofs.CatalogLoad
import VariantStrip.Proofs.Meaning
import VariantStrip.Proofs.Unfailing

namespace VariantStrip

/-- The rule votes to include the candidate, and not to strip it. -/
def Voter.Keeps (v : Voter) (c : Context) : Prop :=
  v.votesInclude c = .ok true ∧ v.votesStrip c = .ok false

/-- The rule votes to strip the candidate, and not to include it. -/
def Voter.Rejects (v : Voter) (c : Context) : Prop :=
  v.votesInclude c = .ok false ∧ v.votesStrip c = .ok true

/-- The rule on catalogs with some options, once it has been prepared. -/
def Surroundings.catalogVoter [Pattern.Capacity] (w : Surroundings) (o : CatalogOptions) :
    Except StripError Voter := do
  let rule ← BuiltRule.ofSpec w.build (.includeVariantCatalog o)
  let ready ← (rule.prepare w.disk w.host).value
  return ready.voter ""

/-- Whatever the first catalogs list, the second ones list for the same shader, wherever. -/
def Covers (cs ds : List Catalog) : Prop :=
  ∀ c ∈ cs, ∀ entry ∈ c.shaders, ∀ v ∈ entry.variants,
    ∃ d ∈ ds, ∃ entry' ∈ d.shaders, entry'.shader = entry.shader ∧ v ∈ entry'.variants

instance (cs ds : List Catalog) : Decidable (Covers cs ds) :=
  inferInstanceAs (Decidable (∀ c ∈ cs, ∀ entry ∈ c.shaders, ∀ v ∈ entry.variants, _))

/-! ### What the rule keeps -/

namespace CatalogOptions

/-- A listed variant has the keywords of the candidate, or nothing is listed for the shader and such
shaders are left alone. -/
def Keeps (o : CatalogOptions) (w : Surroundings) (shader : ShaderId) (x : Candidate) : Prop :=
  o.Lists w shader x ∨ o.onlyStripListedShaders = true ∧ o.listed w shader = []

instance (o : CatalogOptions) (w : Surroundings) (shader : ShaderId) (x : Candidate) :
    Decidable (o.Keeps w shader x) :=
  inferInstanceAs (Decidable (_ ∨ _))

variable {o : CatalogOptions} {w : Surroundings} {shader : ShaderId} {x : Candidate}

theorem listed_subset_of_covers {o' : CatalogOptions} {w' : Surroundings}
    (hhost : w'.host = w.host) (hcovers : Covers (o.known w) (o'.known w')) (shader : ShaderId) :
    o.listed w shader ⊆ o'.listed w' shader := by
  intro v hv
  obtain ⟨c, hc, entry, hentry, hshader, hv⟩ := mem_listed.mp hv
  obtain ⟨d, hd, entry', hentry', hname, hv'⟩ := hcovers c hc entry hentry v hv
  refine mem_listed.mpr ⟨d, hd, entry', hentry', ?_, hv'⟩
  rw [hhost, hname]
  exact hshader

/-- A variant that is listed stays listed when more is, and when local keywords stop counting. -/
theorem Lists.mono {o' : CatalogOptions} {w' : Surroundings} (h : o.Lists w shader x)
    (hhost : w'.host = w.host) (hlisted : o.listed w shader ⊆ o'.listed w' shader)
    (hlocal : o.matchWithoutLocalKeywords = true → o'.matchWithoutLocalKeywords = true) :
    o'.Lists w' shader x := by
  obtain ⟨v, hv, hsame⟩ := h
  refine ⟨v, hlisted hv, hsame.imp_right ?_⟩
  rintro ⟨hflag, hglobal⟩
  rw [hhost]
  exact ⟨hlocal hflag, hglobal⟩

/-- **More catalogs keep more**, unless the shaders that nothing is listed for are left alone. -/
theorem Keeps.of_covers {o' : CatalogOptions} {w' : Surroundings} (h : o.Keeps w shader x)
    (honly : o.onlyStripListedShaders = false)
    (hlocal : o'.matchWithoutLocalKeywords = o.matchWithoutLocalKeywords)
    (hhost : w'.host = w.host) (hcovers : Covers (o.known w) (o'.known w')) :
    o'.Keeps w' shader x := by
  rcases h with hlists | ⟨hflag, -⟩
  · exact .inl (hlists.mono hhost (listed_subset_of_covers hhost hcovers shader) hlocal.trans)
  · rw [honly] at hflag
    cases hflag

/-- **Looser options keep more**, for the same catalogs. -/
theorem Keeps.relaxed {o' : CatalogOptions} (h : o.Keeps w shader x)
    (hcatalogs : o'.catalogs = o.catalogs)
    (hlocal : o.matchWithoutLocalKeywords = true → o'.matchWithoutLocalKeywords = true)
    (honly : o.onlyStripListedShaders = true → o'.onlyStripListedShaders = true) :
    o'.Keeps w shader x := by
  have hlisted : o'.listed w shader = o.listed w shader := by
    rw [listed, listed, known, known, hcatalogs]
  rcases h with hlists | ⟨hflag, hnone⟩
  · exact .inl (hlists.mono rfl (by rw [hlisted]; exact List.Subset.refl _) hlocal)
  · exact .inr ⟨honly hflag, hlisted.trans hnone⟩

end CatalogOptions

/-! ### What preparing leads to -/

/-- A path that leads to no file is passed over, if its extension is that of a catalog. -/
theorem value_loadCatalogs_missing {d : Disk} {p : Path} {format : Format}
    (hformat : Format.ofPath? p = some format) (hmissing : d.read p = .error .notFound)
    (before after : List Path) :
    (loadCatalogs d (before ++ p :: after)).value = (loadCatalogs d (before ++ after)).value := by
  have hload : Catalog.load d p = .ok none := by
    rw [Catalog.load_of_fault hformat hmissing, if_pos rfl]
  induction before with
  | nil =>
    rw [List.nil_append, List.nil_append]
    conv_lhs => unfold loadCatalogs
    rw [hload]
    rfl
  | cons q before ih =>
    -- What fails before the missing file is reached fails without it too.
    rw [List.cons_append, List.cons_append]
    unfold loadCatalogs
    cases Catalog.load d q with
    | error e => rfl
    | ok found =>
      cases found with
      | none => simp only [Logged.value_bind, ih]
      | some c => simp only [Logged.value_bind, ih]

namespace Surroundings

variable [Pattern.Capacity] {w : Surroundings} {o : CatalogOptions} {v : Voter}

/-- Preparing fails if a catalog fails to load; otherwise the rule is one over the index of the
catalogs that have been found and of those of the build. -/
theorem catalogVoter_eq (w : Surroundings) (o : CatalogOptions) :
    w.catalogVoter o =
      ((loadCatalogs w.disk (o.catalogs.map w.build.resolve)).value.mapError .catalog).map
        fun found => (BuiltRule.variantCatalog (.ofIndex o
          (ReferenceIndex.ofCatalogs w.host (found ++ w.build.extraCatalogs)).value)).voter "" := by
  show (do
    let ready ← ((BuiltRule.variantCatalog (.ofOptions w.build o)).prepare w.disk w.host).value
    return ready.voter "") = _
  rw [BuiltRule.prepare, CatalogRule.prepare]
  simp only [Logged.value_bind, CatalogRule.ofOptions]
  cases (loadCatalogs w.disk (o.catalogs.map w.build.resolve)).value with
  | error e => rfl
  | ok found => rfl

/-- The votes of the rule are opposite to each other: it keeps or it strips. -/
theorem votes_of_catalogVoter (hv : w.catalogVoter o = .ok v) (c : Context) :
    v.votesInclude c = .ok (decide (o.Keeps w c.shader c.candidate)) ∧
      v.votesStrip c = .ok !decide (o.Keeps w c.shader c.candidate) := by
  obtain ⟨rule, hrule, hrest⟩ := bind_eq_ok_iff.mp hv
  cases hrule
  obtain ⟨ready, hready, h⟩ := bind_eq_ok_iff.mp hrest
  cases h
  obtain ⟨loaded, hloaded, rfl⟩ := map_eq_ok_iff.mp hready
  obtain ⟨b, hb⟩ : ∃ b, loaded.keeps c = .ok b :=
    (BuiltRule.answers_voter_iff _ "").mpr (BuiltRule.isLoaded_of_prepare hready) c .inclusion
  have hfalse : b = false ↔ ¬ o.Keeps w c.shader c.candidate := by
    have hkeeps := keeps_eq_false_iff hloaded c
    rw [hb, Except.ok.injEq] at hkeeps
    rw [hkeeps, CatalogOptions.Keeps, not_or, not_and]
  have hdecide : b = decide (o.Keeps w c.shader c.candidate) := by
    cases b with
    | false => exact (decide_eq_false (hfalse.mp rfl)).symm
    | true => exact (decide_eq_true (by_contra fun h => nomatch hfalse.mpr h)).symm
  rw [← hdecide]
  exact ⟨hb, congrArg (Except.map (!·)) hb⟩

theorem keeps_iff (hv : w.catalogVoter o = .ok v) (c : Context) :
    v.Keeps c ↔ o.Keeps w c.shader c.candidate := by
  obtain ⟨hinclude, hstrip⟩ := votes_of_catalogVoter hv c
  rw [Voter.Keeps, hinclude, hstrip]
  simp

theorem rejects_iff (hv : w.catalogVoter o = .ok v) (c : Context) :
    v.Rejects c ↔ ¬ o.Keeps w c.shader c.candidate := by
  obtain ⟨hinclude, hstrip⟩ := votes_of_catalogVoter hv c
  rw [Voter.Rejects, hinclude, hstrip]
  simp

/-- Options that name the same catalogs prepare alike. -/
theorem exists_catalogVoter {o' : CatalogOptions} (hv : w.catalogVoter o = .ok v)
    (hcatalogs : o'.catalogs = o.catalogs) : ∃ v', w.catalogVoter o' = .ok v' := by
  rw [catalogVoter_eq] at hv ⊢
  rw [hcatalogs]
  obtain ⟨found, hfound, -⟩ := map_eq_ok_iff.mp hv
  exact ⟨_, map_eq_ok_iff.mpr ⟨found, hfound, rfl⟩⟩

end Surroundings

/-- **Catalogs only keep more.**  A rule on catalogs that has been prepared keeps or strips each
candidate, whatever the build is.

* As long as shaders that no catalog lists are not left alone, what is kept is kept over any
  catalogs that list as much for the same host, wherever these come from.
* Local keywords that do not count, and leaving alone the shaders that no catalog lists, never make
  preparing fail, and what is kept is kept then too.
* If a variant listed for the shader, in any catalog and for any pass, has the keywords of the
  candidate, then it is kept.
* A path that leads to no file makes no difference, neither for the votes nor for a failure, if its
  extension is that of a catalog. -/
theorem catalogs_only_keep_more [Pattern.Capacity] (w : Surroundings) (o : CatalogOptions) :
    (∀ v, w.catalogVoter o = .ok v → ∀ c, v.Keeps c ∨ v.Rejects c) ∧
    (∀ (w' : Surroundings) (o' : CatalogOptions) v v', w'.host = w.host →
      o.onlyStripListedShaders = false → o'.onlyStripListedShaders = false →
      o'.matchWithoutLocalKeywords = o.matchWithoutLocalKeywords →
      Covers (o.known w) (o'.known w') →
      w.catalogVoter o = .ok v → w'.catalogVoter o' = .ok v' → ∀ c, v.Keeps c → v'.Keeps c) ∧
    (∀ v, w.catalogVoter o = .ok v →
      ∃ v₁, w.catalogVoter { o with matchWithoutLocalKeywords := true } = .ok v₁ ∧
        ∃ v₂, w.catalogVoter { o with onlyStripListedShaders := true } = .ok v₂ ∧
          ∀ c, v.Keeps c → v₁.Keeps c ∧ v₂.Keeps c) ∧
    (∀ v, w.catalogVoter o = .ok v → ∀ c, ∀ catalog ∈ o.known w, ∀ entry ∈ catalog.shaders,
      w.host.find? entry.shader = some c.shader → ∀ u ∈ entry.variants,
        SameMembers u.keywords c.candidate.keywords → v.Keeps c) ∧
    ∀ before p after format, o.catalogs = before ++ p :: after →
      Format.ofPath? (w.build.resolve p) = some format →
      w.disk.read (w.build.resolve p) = .error .notFound →
      w.catalogVoter { o with catalogs := before ++ after } = w.catalogVoter o := by
  refine ⟨?_, ?_, ?_, ?_, ?_⟩
  · intro v hv c
    rw [Surroundings.keeps_iff hv, Surroundings.rejects_iff hv]
    exact em _
  · intro w' o' v v' hhost honly _ hlocal hcovers hv hv' c hkeeps
    rw [Surroundings.keeps_iff hv] at hkeeps
    rw [Surroundings.keeps_iff hv']
    exact hkeeps.of_covers honly hlocal hhost hcovers
  · intro v hv
    obtain ⟨v₁, hv₁⟩ : ∃ v₁, w.catalogVoter { o with matchWithoutLocalKeywords := true } = .ok v₁ :=
      Surroundings.exists_catalogVoter hv rfl
    obtain ⟨v₂, hv₂⟩ : ∃ v₂, w.catalogVoter { o with onlyStripListedShaders := true } = .ok v₂ :=
      Surroundings.exists_catalogVoter hv rfl
    refine ⟨v₁, hv₁, v₂, hv₂, fun c hkeeps => ?_⟩
    rw [Surroundings.keeps_iff hv] at hkeeps
    rw [Surroundings.keeps_iff hv₁, Surroundings.keeps_iff hv₂]
    exact ⟨hkeeps.relaxed rfl (fun _ => rfl) id, hkeeps.relaxed rfl id fun _ => rfl⟩
  · intro v hv c catalog hcatalog entry hentry hshader u hu hsame
    rw [Surroundings.keeps_iff hv]
    exact .inl ⟨u, mem_listed.mpr ⟨catalog, hcatalog, entry, hentry, hshader, hu⟩, .inl hsame⟩
  · intro before p after format hcatalogs hformat hmissing
    rw [Surroundings.catalogVoter_eq, Surroundings.catalogVoter_eq, hcatalogs, List.map_append,
      List.map_append, List.map_cons, value_loadCatalogs_missing hformat hmissing]
    rfl

/-- A build with one catalog, which lists one variant of a shader with a local keyword. -/
def moor : Surroundings where
  host := .ofList [{ name := "Moor", localKeywords := .ofList ["_WET"] }]
  disk := {}
  build := { extraCatalogs := [⟨[⟨"Moor", [⟨.metaPass, ["A", "B"]⟩]⟩]⟩] }
  development := false

/-- The same build with another catalog in front, and with another variant in the first place. -/
def wideMoor : Surroundings :=
  { moor with build := { extraCatalogs :=
    [⟨[⟨"Bog", []⟩]⟩, ⟨[⟨"Moor", [⟨.normal, ["_WET"]⟩, ⟨.metaPass, ["A", "B"]⟩]⟩]⟩] } }

/-- A rule on a catalog that does not exist. -/
def moorOptions : CatalogOptions := { catalogs := [⟨"gone.json"⟩] }

/-- A candidate with the keywords of the listed variant. -/
def moorContext : Context := moor.context ⟨0⟩ ⟨.normal, "P"⟩ ⟨["B", "A", "B"], .d3d, .tier1⟩

theorem catalogs_only_keep_more_moor :
    ∃ v, moor.catalogVoter moorOptions = .ok v ∧ v.Keeps moorContext ∧
      (∃ v', wideMoor.catalogVoter moorOptions = .ok v' ∧ v'.Keeps moorContext) ∧
      (∃ v₁, moor.catalogVoter { moorOptions with matchWithoutLocalKeywords := true } = .ok v₁ ∧
        v₁.Keeps moorContext) ∧
      (∃ v₂, moor.catalogVoter { moorOptions with onlyStripListedShaders := true } = .ok v₂ ∧
        v₂.Keeps moorContext) ∧
      moor.catalogVoter {} = .ok v := by
  obtain ⟨-, hcovers, hflags, hlisted, hmissing⟩ := catalogs_only_keep_more moor moorOptions
  obtain ⟨v, hv⟩ : ∃ v, moor.catalogVoter moorOptions = .ok v := ⟨_, rfl⟩
  obtain ⟨v', hv'⟩ : ∃ v', wideMoor.catalogVoter moorOptions = .ok v' := ⟨_, rfl⟩
  have hkeeps : v.Keeps moorContext :=
    hlisted v hv moorContext ⟨[⟨"Moor", [⟨.metaPass, ["A", "B"]⟩]⟩]⟩ (by decide +kernel)
      ⟨"Moor", [⟨.metaPass, ["A", "B"]⟩]⟩ (by decide) (by decide +kernel) ⟨.metaPass, ["A", "B"]⟩
      (by decide) (by decide)
  obtain ⟨v₁, hv₁, v₂, hv₂, hrelaxed⟩ := hflags v hv
  refine ⟨v, hv, hkeeps, ⟨v', hv', ?_⟩, ⟨v₁, hv₁, (hrelaxed _ hkeeps).1⟩,
    ⟨v₂, hv₂, (hrelaxed _ hkeeps).2⟩, ?_⟩
  · exact hcovers wideMoor moorOptions v v' rfl rfl rfl rfl (by decide +kernel) hv hv' moorContext
      hkeeps
  · exact (hmissing [] ⟨"gone.json"⟩ [] .json rfl (by decide +kernel) (by decide +kernel)).trans hv

/-- A path that leads to no file does make a difference if its extension is that of no catalog, or
if a file stands in the way: then preparing fails, and nothing is kept. -/
theorem missing_catalogs_matter :
    (∃ v, moor.catalogVoter {} = .ok v ∧ v.Keeps moorContext) ∧
      (moor.disk.read ⟨"gone.txt"⟩ = .error .notFound ∧
        moor.catalogVoter { catalogs := [⟨"gone.txt"⟩] } =
          .error (.catalog (.unknownFormat ⟨"gone.txt"⟩))) ∧
      ∃ d : Disk, d.isFile ⟨"peat.ron/gone.ron"⟩ = false ∧
        Surroundings.catalogVoter { moor with disk := d } { catalogs := [⟨"peat.ron/gone.ron"⟩] } =
          .error (.catalog (.file .notFolder)) := by
  have hunknown : (moor.disk.read ⟨"gone.txt"⟩) = .error .notFound := by decide +kernel
  refine ⟨?_, ⟨hunknown, ?_⟩, ⟨[(["peat.ron"], .file "")], []⟩, by decide +kernel, ?_⟩
  · obtain ⟨v, hv⟩ : ∃ v, moor.catalogVoter {} = .ok v := ⟨_, rfl⟩
    exact ⟨v, hv, (Surroundings.keeps_iff hv moorContext).mpr (by decide +kernel)⟩
  · rw [Surroundings.catalogVoter_eq]
    rfl
  · rw [Surroundings.catalogVoter_eq]
    rfl

end VariantStrip
