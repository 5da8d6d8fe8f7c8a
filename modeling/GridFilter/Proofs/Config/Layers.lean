import GridFilter.Config.Load
import GridFilter.Proofs.Text.Affix

/-!
# Configuration, setting by setting

Two files are merged section by section, the command line goes over the result, and the whole is
checked.  What comes of it is simpler to say: every setting is taken from the first of command line,
chosen or local file, and the user's own file that sets it, and has its default if none does
(`Config.layered`).  The web service is configured when one of the three gives its address, and its
token need not come from the same place.  A configuration is given out exactly if it is in order as
a whole, whichever layers its parts came from (`Config.load_layered`).

## The argument

A file is seen as the layer of what its sections set (`ConfigFile.layer`).  Merging a section that
is there into one that may be missing lays the one over the other, for every setting in the same way
(`bind_mergeSection`), so merging files lays their layers over each other.
-/

namespace GridFilter

/-! ## Files as layers -/

/-- One layer over another: a setting that the upper one leaves open is that of the lower one. -/
def ConfigLayer.over (upper lower : ConfigLayer) : ConfigLayer where
  nameSuffix := upper.nameSuffix.or lower.nameSuffix
  wildcard := upper.wildcard.or lower.wildcard
  cacheEnabled := upper.cacheEnabled.or lower.cacheEnabled
  cacheSeconds := upper.cacheSeconds.or lower.cacheSeconds
  cacheEntries := upper.cacheEntries.or lower.cacheEntries
  webUrl := upper.webUrl.or lower.webUrl
  webToken := upper.webToken.or lower.webToken

namespace ConfigFile

/-- What the sections of a file set. -/
def layer (file : ConfigFile) : ConfigLayer where
  nameSuffix := file.filter.bind (·.nameSuffix)
  wildcard := file.filter.bind (·.wildcard)
  cacheEnabled := file.lookup.bind (·.cacheEnabled)
  cacheSeconds := file.lookup.bind (·.cacheSeconds)
  cacheEntries := file.lookup.bind (·.cacheEntries)
  webUrl := file.web.bind (·.url)
  webToken := file.web.bind (·.token)

section Merging

variable {σ α : Type} {merge : σ → σ → σ} {empty : σ} {setting : σ → Option α}

/-- A setting that sections merge is merged through the files, whichever has the section. -/
lemma bind_mergeSection
    (hmerge : ∀ current other, setting (merge current other) = (setting other).or (setting current))
    (hempty : setting empty = none) (current other : Option σ) :
    (mergeSection merge empty current other).bind setting =
      (other.bind setting).or (current.bind setting) := by
  cases other with
  | none => rfl
  | some found =>
      cases current with
      | none => simp [mergeSection, hmerge, hempty]
      | some kept => simp [mergeSection, hmerge]

end Merging

/-- The layer of merged files: the one that was merged in lies over the other. -/
lemma layer_merge (current other : ConfigFile) :
    (current.merge other).layer = other.layer.over current.layer := by
  rw [layer, merge, ConfigLayer.over, ConfigLayer.mk.injEq]
  refine ⟨?_, ?_, ?_, ?_, ?_, ?_, ?_⟩ <;> exact bind_mergeSection (fun _ _ => rfl) rfl _ _

end ConfigFile

/-! ## Resolving -/

namespace Config

/-- The configuration that takes every setting from the first of the layers that sets it. -/
def layered (layers : List ConfigLayer) : Config where
  filter :=
    { nameSuffix := (layers.findSome? (·.nameSuffix)).getD "name"
      wildcard := (layers.findSome? (·.wildcard)).getD "%" }
  lookup :=
    { cacheEnabled := (layers.findSome? (·.cacheEnabled)).getD true
      cacheSeconds := (layers.findSome? (·.cacheSeconds)).getD 300
      cacheEntries := (layers.findSome? (·.cacheEntries)).getD 10000 }
  web := (layers.findSome? (·.webUrl)).map fun url =>
    { url := url, token := layers.findSome? (·.webToken) }

lemma findSome?_cons_eq_or {α β : Type} (f : α → Option β) (first : α) (rest : List α) :
    (first :: rest).findSome? f = (f first).or (rest.findSome? f) := by
  rw [List.findSome?_cons]
  cases f first <;> rfl

/-- Two layers in a row are one layer over the other. -/
lemma layered_over (top upper lower : ConfigLayer) :
    layered [top, upper.over lower] = layered [top, upper, lower] := by
  simp only [layered, findSome?_cons_eq_or, ConfigLayer.over, List.findSome?_nil, Option.or_none]

/-- A layer that sets nothing is of no account. -/
lemma over_empty (layer : ConfigLayer) : layer.over {} = layer := by
  simp only [ConfigLayer.over, Option.or_none]

lemma resolve_eq_layered (commandLine : ConfigLayer) (file : ConfigFile) :
    resolve commandLine file = layered [commandLine, file.layer] := by
  simp only [layered, findSome?_cons_eq_or, List.findSome?_nil, Option.or_none]
  obtain ⟨filter, lookup, web⟩ := file
  cases filter <;> cases lookup <;> cases web <;> rfl

/-- What the program resolves takes every setting from the first of its three sources. -/
lemma resolve_merged (commandLine : ConfigLayer) (profile overlay : ConfigFile) :
    resolve commandLine ((ConfigFile.merge {} profile).merge overlay) =
      layered [commandLine, overlay.layer, profile.layer] := by
  have hempty : ({} : ConfigFile).layer = {} := rfl
  rw [resolve_eq_layered, ConfigFile.layer_merge, ConfigFile.layer_merge, hempty, over_empty,
    layered_over]

/-! ## Checking -/

/-- A configuration that is in order. -/
structure Valid (config : Config) : Prop where
  nameSuffix : ∃ c ∈ config.filter.nameSuffix.toList, Text.isBlank c = false
  wildcard : config.filter.wildcard ≠ ""
  cacheEntries : config.lookup.cacheEnabled = true → 0 < config.lookup.cacheEntries
  url : ∀ web, config.web = some web →
    ∃ rest, web.url = "http://" ++ rest ∨ web.url = "https://" ++ rest

lemma isWebUrl_iff {url : String} :
    isWebUrl url = true ↔ ∃ rest, url = "http://" ++ rest ∨ url = "https://" ++ rest := by
  rw [isWebUrl, Bool.or_eq_true, Option.isSome_iff_exists, Option.isSome_iff_exists, exists_or]
  simp only [Text.withoutLead?_eq_some_iff]

lemma urlFailure?_eq_none_iff {web : Option WebSettings} :
    urlFailure? web = none ↔ ∀ settings, web = some settings →
      ∃ rest, settings.url = "http://" ++ rest ∨ settings.url = "https://" ++ rest := by
  cases web with
  | none => simp [urlFailure?]
  | some settings =>
      rw [urlFailure?]
      simp only [Option.some_inj, forall_eq', ← isWebUrl_iff]
      split <;> simp_all

/-- A check finds nothing and leaves nothing to the rest of the checks. -/
lemma ite_some_eq_none_iff {α : Type} {wrong : Prop} [Decidable wrong] {failure : α}
    {rest : Option α} : (if wrong then some failure else rest) = none ↔ ¬wrong ∧ rest = none := by
  by_cases h : wrong <;> simp [h]

/-- The checks find nothing wrong exactly with the configurations that are in order. -/
lemma failure?_eq_none_iff {config : Config} : config.failure? = none ↔ config.Valid := by
  have hsuffix : ¬Text.isAllBlank config.filter.nameSuffix = true ↔
      ∃ c ∈ config.filter.nameSuffix.toList, Text.isBlank c = false := by
    rw [Bool.not_eq_true, Text.isAllBlank, List.all_eq_false]
    simp
  have hentries : ¬(config.lookup.cacheEnabled && config.lookup.cacheEntries == 0) = true ↔
      (config.lookup.cacheEnabled = true → 0 < config.lookup.cacheEntries) := by
    cases config.lookup.cacheEnabled <;> simp [Nat.pos_iff_ne_zero]
  rw [failure?, ite_some_eq_none_iff, ite_some_eq_none_iff, ite_some_eq_none_iff, hsuffix,
    beq_iff_eq, hentries, urlFailure?_eq_none_iff]
  exact ⟨fun ⟨hsuffix, hwildcard, hcache, hurl⟩ => ⟨hsuffix, hwildcard, hcache, hurl⟩,
    fun h => ⟨h.nameSuffix, h.wildcard, h.cacheEntries, h.url⟩⟩

lemma checked_eq_ok_iff {config found : Config} :
    config.checked = .ok found ↔ found = config ∧ config.Valid := by
  rw [checked, ← failure?_eq_none_iff]
  cases config.failure? with
  | none => simp [eq_comm]
  | some failure => simp

/-! ## Loading -/

/-- The file in a readable entry. -/
inductive IsFile : FileEntry → ConfigFile → Prop
  | intro {text : String} {file : ConfigFile}
      (hread : readDocument ConfigFile.decode text = .ok file) : IsFile (.file (some text)) file

/-- The file in a readable entry, or one that sets nothing if there is no entry. -/
def IsFileIfThere (entry : FileEntry) (file : ConfigFile) : Prop :=
  entry = .missing ∧ file = {} ∨ IsFile entry file

/-- The files that a configuration is loaded from are readable, and this is what they set. -/
structure Sources (look : Look Id) (directories : Directories) (chosen : Option String)
    (profile overlay : ConfigFile) : Prop where
  /-- Without a home directory there is no file in it. -/
  profile_missing : directories.home = none → profile = {}
  profile_home : ∀ home, directories.home = some home →
    IsFileIfThere (look (Path.join (Path.join home ".tabula") "tabula.json")).run profile
  /-- A file that is asked for has to be there. -/
  overlay_chosen : ∀ path, chosen = some path →
    IsFile (look (Path.expand directories path)).run overlay
  overlay_local : chosen = none → IsFileIfThere (look "tabula.json").run overlay

variable {look : Look Id} {directories : Directories} {chosen : Option String} {path : String}
  {profile overlay file : ConfigFile}

lemma IsFile.readFile {entry : FileEntry} (h : IsFile entry file) (path : String) :
    entry.isThere = true ∧ Config.readFile path entry = .ok file := by
  cases h with
  | @intro text _ hread =>
      exact ⟨rfl, by simp only [Config.readFile, FileEntry.text?, hread]⟩

lemma IsFile.fileAt (h : IsFile (look path).run file) :
    (Config.fileAt look path).run = .ok file := by
  obtain ⟨hthere, hfile⟩ := h.readFile path
  rw [Config.fileAt, Id.run_bind, Id.run_pure, if_pos hthere, hfile]

lemma IsFileIfThere.fileIfThere (h : IsFileIfThere (look path).run file) :
    (Config.fileIfThere look path).run = .ok file := by
  rw [Config.fileIfThere, Id.run_bind, Id.run_pure]
  rcases h with ⟨hmissing, rfl⟩ | hfile
  · rw [hmissing]
    rfl
  · obtain ⟨hthere, hread⟩ := hfile.readFile path
    rw [if_pos hthere, hread]

lemma Sources.profileFile (h : Sources look directories chosen profile overlay) :
    (Config.profileFile look directories).run = .ok profile := by
  rw [Config.profileFile]
  cases hhome : directories.home with
  | none => rw [h.profile_missing hhome]; rfl
  | some home => exact (h.profile_home home hhome).fileIfThere

lemma Sources.overlayFile (h : Sources look directories chosen profile overlay) :
    (Config.overlayFile look directories chosen).run = .ok overlay := by
  cases chosen with
  | none => exact (h.overlay_local rfl).fileIfThere
  | some path => exact (h.overlay_chosen path rfl).fileAt

lemma Sources.load (h : Sources look directories chosen profile overlay)
    (commandLine : ConfigLayer) :
    (Config.load look directories chosen commandLine).run =
      (layered [commandLine, overlay.layer, profile.layer]).checked := by
  rw [← resolve_merged, Config.load, Id.run_bind, h.profileFile]
  dsimp only
  rw [Id.run_bind, h.overlayFile]
  rfl

/-- Every setting is that of the first of command line, chosen or local file, and the user's own
file that sets it, and has its default if none does; and from readable files this configuration is
loaded exactly if it is in order. -/
theorem load_layered (profile overlay : ConfigFile) (commandLine : ConfigLayer) :
    let config := layered [commandLine, overlay.layer, profile.layer]
    resolve commandLine ((ConfigFile.merge {} profile).merge overlay) = config ∧
      ∀ (look : Look Id) (directories : Directories) (chosen : Option String),
        Sources look directories chosen profile overlay → ∀ found,
          (load look directories chosen commandLine).run = .ok found ↔
            found = config ∧ config.Valid := by
  intro config
  refine ⟨resolve_merged commandLine profile overlay, ?_⟩
  intro look directories chosen hsources found
  rw [hsources.load commandLine]
  exact checked_eq_ok_iff

/-- Address and token come from different files, and a capacity of zero in the one file is a failure
only when the command line turns the cache on again. -/
theorem load_layered_files :
    let look : Look Id := fun path =>
      if path = "/home/ada/.tabula/tabula.json" then
        .file (some ("\x7b\"filter\": \x7b\"name_suffix\": \"label\", \"wildcard\": \"*\"\x7d, " ++
          "\"lookup\": \x7b\"cache_enabled\": false, \"cache_max_entries\": 0\x7d, " ++
          "\"webapi\": \x7b\"token\": \"secret\"\x7d\x7d"))
      else if path = "tabula.json" then
        .file (some ("\x7b\"filter\": \x7b\"wildcard\": \"?\"\x7d, \"lookup\": null, " ++
          "\"webapi\": \x7b\"url\": \"https://org\"\x7d\x7d"))
      else .missing
    let directories : Directories := ⟨some "/home/ada", "/work"⟩
    let profile : ConfigFile :=
      { filter := some ⟨some "label", some "*"⟩, lookup := some ⟨some false, none, some 0⟩,
        web := some ⟨none, some "secret"⟩ }
    let overlay : ConfigFile :=
      { filter := some ⟨none, some "?"⟩, web := some ⟨some "https://org", none⟩ }
    Sources look directories none profile overlay ∧
      (load look directories none { cacheSeconds := some 60 }).run =
        .ok ⟨⟨"label", "?"⟩, ⟨false, 60, 0⟩, some ⟨"https://org", some "secret"⟩⟩ ∧
      ∀ found, (load look directories none { cacheEnabled := some true }).run ≠ .ok found := by
  intro look directories profile overlay
  have hpath : Path.join (Path.join "/home/ada" ".tabula") "tabula.json" =
      "/home/ada/.tabula/tabula.json" := by decide +kernel
  have hsources : Sources look directories none profile overlay := by
    refine ⟨fun hnone => absurd hnone (by simp [directories]), ?_, by simp, fun _ => ?_⟩
    · intro home hhome
      rw [← Option.some_inj.mp hhome, hpath]
      exact .inr (.intro (by decide +kernel))
    · exact .inr (.intro (by decide +kernel))
  refine ⟨hsources, ?_, ?_⟩
  · refine ((load_layered profile overlay { cacheSeconds := some 60 }).2 look directories none
      hsources _).mpr ⟨by decide +kernel, failure?_eq_none_iff.mp (by decide +kernel)⟩
  · intro found hfound
    have hvalid := (((load_layered profile overlay { cacheEnabled := some true }).2 look directories
      none hsources found).mp hfound).2
    exact absurd (failure?_eq_none_iff.mpr hvalid) (by decide +kernel)

end Config

end GridFilter
