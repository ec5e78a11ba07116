import SchemaDeref.Command.Resolve

/-!
# Layers of settings

Every source of settings is a layer that leaves some of them open: the flags of a
command lie over the options file, and without a file over the environment, and
these lie over the defaults (`Settings.load_layers`). File and environment are never
laid over one another: with a file, what it leaves open is the default, whatever the
environment says.
-/

namespace SchemaDeref

/-! ## Results that may fail -/

namespace Except

variable {ε ε' α β : Type}

theorem exists_of_bind_eq_ok {first : Except ε α} {next : α → Except ε β} {b : β}
    (h : first >>= next = .ok b) : ∃ a, first = .ok a ∧ next a = .ok b := by
  cases first with
  | error error => cases h
  | ok a => exact ⟨a, rfl, h⟩

theorem eq_ok_of_mapError {f : ε → ε'} {result : Except ε α} {a : α}
    (h : result.mapError f = .ok a) :
    result = .ok a := by
  cases result with
  | error error => cases h
  | ok a => exact congrArg Except.ok (Except.ok.inj h)

theorem eq_ok_of_toOption {result : Except ε α} {a : α}
    (h : result.toOption = some a) :
    result = .ok a := by
  cases result with
  | error error => cases h
  | ok a => exact congrArg Except.ok (Option.some.inj h)

end Except

/-! ## Layers -/

/-- The entries of the mapping that an options file holds; an empty one counts as a
mapping without entries. -/
def Settings.entries? : Yaml → Option (List (String × Yaml))
  | .mapping _ entries => distinctEntries? entries
  | .sequence _ _ => none
  | .scalar _ text style => if text.isEmpty && style = .plain then some [] else none

/-- What one source says about settings; what it leaves open is for the layer below. -/
structure Layer where
  maxDepth : Option Nat
  cyclePolicy : Option CyclePolicy
  useCache : Option Bool

/-- That a setting is what something given for it reads as, and open if nothing is
given. -/
def Reads {ρ α : Type} (given : Option ρ) (read : ρ → Option α)
    (setting : Option α) : Prop :=
  given.map read = setting.map some

namespace Layer

/-- The settings with the layer over them. -/
def onto (layer : Layer) (settings : Settings) : Settings where
  maxDepth := layer.maxDepth.getD settings.maxDepth
  cyclePolicy := layer.cyclePolicy.getD settings.cyclePolicy
  useCache := layer.useCache.getD settings.useCache

/-- The flags of a command. The cache can only be switched off. -/
def ofRequest (request : ResolveRequest) : Layer where
  maxDepth := request.maxDepth
  cyclePolicy := request.cyclePolicy
  useCache := if request.noCache then some false else none

/-- The layer of the environment. -/
structure IsEnvironment (layer : Layer) (environment : Environment) : Prop where
  maxDepth : Reads (environment Settings.maxDepthVariable)
    (fun text => (Settings.maxDepthOf text).toOption) layer.maxDepth
  cyclePolicy : Reads (environment Settings.cyclePolicyVariable)
    (fun text => (CyclePolicy.parse Settings.cyclePolicyVariable text).toOption)
    layer.cyclePolicy
  useCache : Reads (environment Settings.useCacheVariable)
    (fun text => (Settings.useCacheOf text).toOption) layer.useCache

/-- The layer of a mapping with these entries. -/
structure IsMapping (layer : Layer) (entries : List (String × Yaml)) : Prop where
  maxDepth : Reads (entries.lookup "maxDepth") Settings.depthOfYaml? layer.maxDepth
  cyclePolicy : Reads (entries.lookup "circularHandling") CyclePolicy.ofYaml?
    layer.cyclePolicy
  useCache : Reads (entries.lookup "enableCache") Settings.switchOfYaml?
    layer.useCache

/-- The layer of an options file. -/
def IsFile (layer : Layer) (files : Files) (path : String) : Prop :=
  ∃ text value entries, files.text path = .ok text ∧ Yaml.parse? text = some value ∧
    Settings.entries? value = some entries ∧ layer.IsMapping entries

end Layer

/-! ## Flags -/

theorem ResolveRequest.overlay_eq (request : ResolveRequest) (settings : Settings) :
    request.overlay settings = (Layer.ofRequest request).onto settings := by
  rw [overlay, Layer.onto, Layer.ofRequest]
  cases request.noCache with
  | true => simp
  | false => simp

namespace Settings

/-! ## The environment -/

theorem exists_reads_of_orDefault {α : Type} {value : Option String}
    {read : String → Except SettingsError α} {default result : α}
    (h : orDefault value read default = .ok result) :
    ∃ setting, Reads value (fun text => (read text).toOption) setting ∧
      result = setting.getD default := by
  cases value with
  | none =>
    cases h
    exact ⟨none, rfl, rfl⟩
  | some text =>
    have hread : read text = .ok result := h
    exact ⟨some result, by rw [Reads, Option.map_some, hread]; rfl, rfl⟩

theorem exists_layer_of_environment {environment : Environment} {settings : Settings}
    (h : ofEnvironment environment = .ok settings) :
    ∃ layer : Layer, layer.IsEnvironment environment ∧ settings = layer.onto {} := by
  obtain ⟨maxDepth, hmaxDepth, h⟩ := Except.exists_of_bind_eq_ok h
  obtain ⟨cyclePolicy, hcyclePolicy, h⟩ := Except.exists_of_bind_eq_ok h
  obtain ⟨useCache, huseCache, h⟩ := Except.exists_of_bind_eq_ok h
  obtain ⟨depth?, hdepth, rfl⟩ := exists_reads_of_orDefault hmaxDepth
  obtain ⟨policy?, hpolicy, rfl⟩ := exists_reads_of_orDefault hcyclePolicy
  obtain ⟨cache?, hcache, rfl⟩ := exists_reads_of_orDefault huseCache
  exact ⟨⟨depth?, policy?, cache?⟩, ⟨hdepth, hpolicy, hcache⟩, (Except.ok.inj h).symm⟩

/-! ## Files -/

theorem length_eraseDups_le (names : List String) :
    names.eraseDups.length ≤ names.length := by
  cases names with
  | nil => exact Nat.zero_le _
  | cons name rest =>
    have hfilter := List.length_filter_le (fun other => !other == name) rest
    have hrest := length_eraseDups_le (rest.filter fun other => !other == name)
    rw [List.eraseDups_cons, List.length_cons, List.length_cons]
    omega
termination_by names.length
decreasing_by exact Nat.lt_succ_of_le (List.length_filter_le ..)

theorem nodup_of_length_eraseDups {names : List String}
    (h : names.eraseDups.length = names.length) :
    names.Nodup := by
  induction names with
  | nil => exact .nil
  | cons name rest ih =>
    rw [List.eraseDups_cons, List.length_cons, List.length_cons] at h
    have hfilter : (rest.filter fun other => !other == name).length =
        rest.length := by
      have hle := List.length_filter_le (fun other => !other == name) rest
      have herase := length_eraseDups_le (rest.filter fun other => !other == name)
      omega
    have hne := List.length_filter_eq_length_iff.mp hfilter
    rw [List.filter_eq_self.mpr hne] at h
    refine List.nodup_cons.mpr ⟨fun hmem => ?_, ih (Nat.succ.inj h)⟩
    simpa using hne name hmem

theorem nodup_of_distinctEntries? {entries : List (Yaml × Yaml)}
    {named : List (String × Yaml)} (h : distinctEntries? entries = some named) :
    (named.map Prod.fst).Nodup := by
  obtain ⟨all, -, h⟩ := Option.bind_eq_some_iff.mp h
  dsimp only at h
  split at h
  · rename_i hlength
    cases h
    exact nodup_of_length_eraseDups hlength
  · cases h

/-- An entry sets the setting of its key to what the value reads as, and no other. -/
theorem reads_of_withEntry {settings next : Settings} {name : String} {value : Yaml}
    (h : withEntry settings (name, value) = some next) :
    (if name = "maxDepth" then depthOfYaml? value = some next.maxDepth
      else next.maxDepth = settings.maxDepth) ∧
    (if name = "circularHandling" then CyclePolicy.ofYaml? value =
      some next.cyclePolicy
      else next.cyclePolicy = settings.cyclePolicy) ∧
    (if name = "enableCache" then switchOfYaml? value = some next.useCache
      else next.useCache = settings.useCache) := by
  rw [withEntry.eq_def] at h
  split at h
  · rename_i heq
    obtain ⟨maxDepth, hmaxDepth, rfl⟩ := Option.map_eq_some_iff.mp h
    cases heq
    exact ⟨hmaxDepth, rfl, rfl⟩
  · rename_i heq
    obtain ⟨cyclePolicy, hcyclePolicy, rfl⟩ := Option.map_eq_some_iff.mp h
    cases heq
    exact ⟨rfl, hcyclePolicy, rfl⟩
  · rename_i heq
    obtain ⟨useCache, huseCache, rfl⟩ := Option.map_eq_some_iff.mp h
    cases heq
    exact ⟨rfl, rfl, huseCache⟩
  · cases h

/-- Entries with different names set one setting by the value of its key, or leave
it as it was. -/
theorem exists_reads_of_foldlM {α : Type} (get : Settings → α) (key : String)
    (read : Yaml → Option α)
    (hstep : ∀ settings name value next, withEntry settings (name, value) =
      some next →
      if name = key then read value = some (get next) else get next = get settings)
    {entries : List (String × Yaml)} (hnames : (entries.map Prod.fst).Nodup)
    {settings result : Settings}
    (h : entries.foldlM withEntry settings = some result) :
    ∃ setting, Reads (entries.lookup key) read setting ∧
      get result = setting.getD (get settings) := by
  induction entries generalizing settings with
  | nil =>
    cases h
    exact ⟨none, rfl, rfl⟩
  | cons entry rest ih =>
    obtain ⟨name, value⟩ := entry
    rw [List.map_cons, List.nodup_cons] at hnames
    rw [List.foldlM_cons] at h
    obtain ⟨next, hnext, h⟩ := Option.bind_eq_some_iff.mp h
    obtain ⟨setting, hreads, hresult⟩ := ih hnames.2 h
    have hstep := hstep settings name value next hnext
    by_cases hkey : name = key
    · subst hkey
      rw [if_pos rfl] at hstep
      have hrest : rest.lookup name = none := by
        rw [List.lookup_eq_none_iff]
        intro other hother
        rw [bne_iff_ne]
        exact fun heq => hnames.1 (List.mem_map.mpr ⟨other, hother, heq.symm⟩)
      rw [Reads, hrest] at hreads
      obtain rfl : setting = none := by
        cases setting with
        | none => rfl
        | some _ => cases hreads
      refine ⟨some (get next), ?_, hresult⟩
      rw [Reads, List.lookup_cons_self, Option.map_some, hstep, Option.map_some]
    · rw [if_neg hkey] at hstep
      refine ⟨setting, ?_, by rw [hresult, hstep]⟩
      rwa [List.lookup_cons, beq_eq_false_iff_ne.mpr (Ne.symm hkey)]

theorem exists_layer_of_entries {entries : List (String × Yaml)}
    (hnames : (entries.map Prod.fst).Nodup) {settings : Settings}
    (h : entries.foldlM withEntry {} = some settings) :
    ∃ layer : Layer, layer.IsMapping entries ∧ settings = layer.onto {} := by
  obtain ⟨maxDepth, hmaxDepth, hdepth⟩ := exists_reads_of_foldlM Settings.maxDepth _ _
    (fun _ _ _ _ hnext => (reads_of_withEntry hnext).1) hnames h
  obtain ⟨cyclePolicy, hcyclePolicy, hpolicy⟩ :=
    exists_reads_of_foldlM Settings.cyclePolicy _ _
    (fun _ _ _ _ hnext => (reads_of_withEntry hnext).2.1) hnames h
  obtain ⟨useCache, huseCache, hcache⟩ := exists_reads_of_foldlM Settings.useCache _ _
    (fun _ _ _ _ hnext => (reads_of_withEntry hnext).2.2) hnames h
  refine ⟨⟨maxDepth, cyclePolicy, useCache⟩, ⟨hmaxDepth, hcyclePolicy, huseCache⟩, ?_⟩
  rw [Layer.onto, ← hdepth, ← hpolicy, ← hcache]

theorem exists_entries_of_ofYamlValue? {value : Yaml} {settings : Settings}
    (h : ofYamlValue? value = some settings) :
    ∃ entries, entries? value = some entries ∧ (entries.map Prod.fst).Nodup ∧
      entries.foldlM withEntry {} = some settings := by
  rw [ofYamlValue?.eq_def] at h
  split at h
  · obtain ⟨entries, hentries, h⟩ := Option.bind_eq_some_iff.mp h
    exact ⟨entries, hentries, nodup_of_distinctEntries? hentries, h⟩
  · cases h
  · rename_i hempty
    split at h
    · rename_i hplain
      cases h
      exact ⟨[], if_pos hplain, .nil, rfl⟩
    · cases h

/-- Settings that can be loaded, with the flags of a command over them: the flags
lie over the options file, or over the environment if there is no file, and that
lies over the defaults. -/
theorem load_layers {files : Files} {environment : Environment}
    {config : Option String} {settings : Settings}
    (h : load files environment config = .ok settings) (request : ResolveRequest) :
    ∃ layer : Layer,
      (match config with
      | some path => layer.IsFile files path
      | none => layer.IsEnvironment environment) ∧
      request.overlay settings = (Layer.ofRequest request).onto (layer.onto {}) := by
  rw [load.eq_def] at h
  split at h
  · obtain ⟨text, htext, h⟩ :=
      Except.exists_of_bind_eq_ok (Except.eq_ok_of_mapError h)
    simp only [ofYaml] at h
    split at h
    · rename_i parsed hparsed
      cases h
      obtain ⟨value, hvalue, hsettings⟩ := Option.bind_eq_some_iff.mp hparsed
      obtain ⟨entries, hentries, hnames, hfold⟩ :=
        exists_entries_of_ofYamlValue? hsettings
      obtain ⟨layer, hlayer, rfl⟩ := exists_layer_of_entries hnames hfold
      exact ⟨layer, ⟨text, value, entries, Except.eq_ok_of_mapError htext, hvalue,
        hentries, hlayer⟩,
        request.overlay_eq _⟩
    · cases h
  · obtain ⟨layer, hlayer, rfl⟩ :=
      exists_layer_of_environment (Except.eq_ok_of_mapError h)
    exact ⟨layer, hlayer, request.overlay_eq _⟩

end Settings

section

/-- A single file that sets one of the settings. -/
def depthOnly : Files :=
  ⟨fun path => if path = "c.yaml" then .ok "maxDepth: 3".toUTF8 else .error
    .missing, fun _ => none⟩

/-- An environment that sets another one. -/
def policyOnly : Environment := fun name =>
  if name = Settings.cyclePolicyVariable then some "ignore" else none

def uncached : ResolveRequest := ⟨"s.json", none, none, none, true, none, false⟩

theorem load_layers_uncached :
    Settings.load depthOnly policyOnly (some "c.yaml") = .ok { maxDepth := 3 } ∧
    Settings.load depthOnly policyOnly none = .ok { cyclePolicy := .ignore } ∧
    (∃ layer : Layer, layer.IsFile depthOnly "c.yaml" ∧
      uncached.overlay { maxDepth := 3 } = (Layer.ofRequest uncached).onto
        (layer.onto {})) ∧
    (∃ layer : Layer, layer.IsEnvironment policyOnly ∧
      uncached.overlay { cyclePolicy := .ignore } = (Layer.ofRequest uncached).onto
        (layer.onto {})) := by
  have hfile : Settings.load depthOnly policyOnly (some "c.yaml") =
      .ok { maxDepth := 3 } :=
    Except.eq_ok_of_toOption (by decide +kernel)
  have hnone : Settings.load depthOnly policyOnly none =
      .ok { cyclePolicy := .ignore } :=
    Except.eq_ok_of_toOption (by decide +kernel)
  exact ⟨hfile, hnone, Settings.load_layers hfile uncached,
    Settings.load_layers hnone uncached⟩

/-- With an options file that has no policy, the policy is the default and not the
one that the environment has, although no flag gives another. -/
theorem load_layers_hidden :
    (Yaml.parse? "maxDepth: 3" >>= Settings.entries?).map (·.map Prod.fst) =
      some ["maxDepth"] ∧
    policyOnly Settings.cyclePolicyVariable = some "ignore" ∧
    CyclePolicy.parse Settings.cyclePolicyVariable "ignore" = .ok .ignore ∧
    uncached.cyclePolicy = none ∧
    Settings.load depthOnly policyOnly (some "c.yaml") = .ok { maxDepth := 3 } ∧
    (uncached.overlay { maxDepth := 3 }).cyclePolicy = .error :=
  ⟨by decide +kernel, by
    decide +kernel, Except.eq_ok_of_toOption (by decide +kernel), rfl,
    Except.eq_ok_of_toOption (by decide +kernel), rfl⟩

end

end SchemaDeref
