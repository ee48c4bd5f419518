import PitbluCore.ConfigurationUpdates
import PitbluCore.Library.Layering
import PitbluCore.SettingTrees

namespace PitbluCore

open Library

def StartupLayers.LoadsYaml (A : StartupLayers) (loaded : List (String × Value)) : Prop :=
  match A.yamlText with
  | none => loaded = []
  | some text => ∃ document, A.safeLoad text = some document ∧
      (document = .map loaded ∨ document.truthy = false ∧ loaded = [])

def yamlNames (loaded : List (String × Value)) : List String := (leavesOf loaded).map (fun l => settingPath "" l.1)

def yamlGiven (loaded : List (String × Value)) (k : String) : Option Value :=
  ((leavesOf loaded).find? (fun l => settingPath "" l.1 = k)).map Prod.snd

namespace StartupLayers

variable (A : StartupLayers)

def settingVariables : List (String × String) := A.environ.entries.filter (fun e => isSetting e.1)

def environmentNames : List String := A.settingVariables.map (fun e => settingName e.1)

def environmentGiven (k : String) : Option Value :=
  (A.settingVariables.find? (fun e => settingName e.1 = k)).bind (fun e => A.safeLoad e.2)

def Unreadable : Prop := ∃ e ∈ A.settingVariables, A.safeLoad e.2 = none

end StartupLayers

section Normalised

variable {A : StartupLayers} {loaded : List (String × Value)}

theorem yamlSettings_eq (h : A.LoadsYaml loaded) : A.yamlSettings = .ok (flatten loaded) := by
  unfold StartupLayers.LoadsYaml at h
  unfold StartupLayers.yamlSettings
  cases ht : A.yamlText with
  | none =>
    rw [ht] at h
    subst h
    rfl
  | some text =>
    rw [ht] at h
    obtain ⟨document, hd, rfl | ⟨hfalse, rfl⟩⟩ := h
    · simp only [hd]
    · simp only [hd]
      cases document with
      | map entries =>
        have hempty : entries = [] := by simpa [Value.truthy] using hfalse
        rw [hempty]
      | _ =>
        simp only [hfalse]
        rfl

theorem flatten_get? (h : (yamlNames loaded).Nodup) : (flatten loaded).get? = yamlGiven loaded := by
  funext k
  rw [Dict.get?, flatten_entries h]
  exact lookup_map_find? _ _ _ k

theorem flatten_keys (h : (yamlNames loaded).Nodup) : (flatten loaded).keys = yamlNames loaded := by
  rw [Dict.keys, flatten_entries h, List.map_map]
  rfl

theorem mapM_safeLoad {load : String → Option Value} {l : List (String × String)} {settings : List (String × Value)}
    (h : l.mapM (fun e => (load e.2).map (fun v => (settingName e.1, v))) = some settings) :
    settings.map Prod.fst = l.map (fun e => settingName e.1) ∧
      ∀ k, settings.lookup k = (l.find? (fun e => settingName e.1 = k)).bind (fun e => load e.2) := by
  induction l generalizing settings with
  | nil =>
    cases h
    exact ⟨rfl, fun _ => rfl⟩
  | cons e l ih =>
    simp only [List.mapM_cons, Option.bind_eq_bind, Option.bind_eq_some_iff, Option.map_eq_some_iff, Option.pure_def,
      Option.some.injEq] at h
    obtain ⟨_, ⟨v, hv, rfl⟩, settings, hsettings, rfl⟩ := h
    obtain ⟨hnames, hgiven⟩ := ih hsettings
    refine ⟨by rw [List.map_cons, List.map_cons, hnames], fun k => ?_⟩
    rw [lookup_cons_ite, hgiven]
    by_cases hk : settingName e.1 = k
    · simp [hk, hv]
    · simp [hk, Ne.symm hk]

theorem mapM_safeLoad_eq_none_iff {load : String → Option Value} {l : List (String × String)} :
    l.mapM (fun e => (load e.2).map (fun v => (settingName e.1, v))) = none ↔ ∃ e ∈ l, load e.2 = none := by
  induction l with
  | nil => simp
  | cons e l ih =>
    simp only [List.mapM_cons, List.mem_cons, exists_eq_or_imp, ← ih]
    cases load e.2 with
    | none => simp
    | some v => cases l.mapM (fun e => (load e.2).map (fun v => (settingName e.1, v))) <;> simp

theorem environmentSettings_cases (h : A.environmentNames.Nodup) :
    (A.Unreadable ∧ A.environmentSettings = .error .invalidYaml) ∨
    (¬A.Unreadable ∧ ∃ environment, A.environmentSettings = .ok environment ∧
      environment.get? = A.environmentGiven ∧ ∀ k, k ∈ environment.keys ↔ k ∈ A.environmentNames) := by
  unfold StartupLayers.environmentSettings
  cases hm : (A.environ.entries.filter (fun e => isSetting e.1)).mapM
      (fun e => (A.safeLoad e.2).map (fun v => (settingName e.1, v))) with
  | none => exact .inl ⟨mapM_safeLoad_eq_none_iff.mp hm, rfl⟩
  | some settings =>
    obtain ⟨hnames, hgiven⟩ := mapM_safeLoad hm
    have hn : (settings.map Prod.fst).Nodup := hnames ▸ h
    refine .inr ⟨fun hu => ?_, Dict.ofList settings, rfl, funext fun k => ?_, fun k => ?_⟩
    · cases (mapM_safeLoad_eq_none_iff.mpr hu).symm.trans hm
    · rw [Dict.get?_ofList hn, hgiven]
      rfl
    · rw [Dict.mem_keys_ofList hn, hnames]
      rfl

end Normalised

structure Layers.Shows (L : Layers) (defaults : Dict String Value)
    (layers : List (Layer String Value SettingSource)) : Prop where
  settings : L.values.keys = defaults.keys
  labelled : L.sources.keys = defaults.keys
  value : ∀ k, L.values.get? k = highestValue layers k
  source : ∀ k, L.sources.get? k = highestSource layers k

namespace Layers

variable {L : Layers} {defaults values : Dict String Value} {layers : List (Layer String Value SettingSource)}

theorem shows_defaults (defaults : Dict String Value) :
    Shows ⟨defaults, defaults.mapValues (fun _ => .default)⟩ defaults [⟨.default, defaults.get?⟩] where
  settings := rfl
  labelled := Dict.keys_mapValues defaults _
  value := fun k => by
    rw [← List.nil_append [_], highestValue_top]
    exact Option.or_none.symm
  source := fun k => by
    rw [← List.nil_append [_], highestSource_top, Dict.get?_mapValues]
    exact Option.or_none.symm

theorem Shows.update (h : L.Shows defaults layers) (hk : ∀ k ∈ values.keys, k ∈ defaults.keys)
    (source : SettingSource) :
    Shows ⟨L.values.update values, L.sources.update (values.mapValues (fun _ => source))⟩ defaults
      (layers ++ [⟨source, values.get?⟩]) where
  settings := (Dict.keys_update (h.settings ▸ hk)).trans h.settings
  labelled := by
    rw [Dict.keys_update, h.labelled]
    rwa [Dict.keys_mapValues, h.labelled]
  value := fun k => by rw [highestValue_top, Dict.get?_update, h.value]
  source := fun k => by rw [highestSource_top, Dict.get?_update, Dict.get?_mapValues, h.source]

def merged (defaults : Dict String Value) (layers : List (Layer String Value SettingSource)) : Dict String Value :=
  defaults.mapWithKey (fun k v => (highestValue layers k).getD v)

theorem Shows.values_eq (h : L.Shows defaults layers) : L.values = merged defaults layers := by
  refine Dict.ext_keys (h.settings.trans (Dict.keys_mapWithKey _ _).symm) fun k => ?_
  rw [merged, Dict.get?_mapWithKey]
  cases hd : defaults.get? k with
  | none =>
    cases hv : L.values.get? k with
    | none => rfl
    | some v =>
      have hk : k ∈ defaults.keys := h.settings ▸ Dict.mem_keys_iff.mpr ⟨v, hv⟩
      obtain ⟨d, hd'⟩ := Dict.mem_keys_iff.mp hk
      cases hd.symm.trans hd'
  | some d =>
    have hk : k ∈ L.values.keys := h.settings ▸ Dict.mem_keys_iff.mpr ⟨d, hd⟩
    obtain ⟨v, hv⟩ := Dict.mem_keys_iff.mp hk
    rw [hv, ← h.value, hv]
    rfl

end Layers

section Base

variable {A : StartupLayers} {loaded : List (String × Value)} {defaults : Dict String Value} {L : Layers}

def baseLayers (defaults : Dict String Value) (A : StartupLayers) (loaded : List (String × Value)) :
    List (Layer String Value SettingSource) :=
  [⟨.default, defaults.get?⟩, ⟨.yaml, yamlGiven loaded⟩, ⟨.environment, A.environmentGiven⟩]

theorem base_shows (hyaml : A.LoadsYaml loaded) (hpaths : (yamlNames loaded).Nodup) (hnames : A.environmentNames.Nodup)
    (h : A.base defaults = .ok L) : ¬A.Unreadable ∧ (∀ k ∈ yamlNames loaded, k ∈ defaults.keys) ∧
      (∀ k ∈ A.environmentNames, k ∈ defaults.keys) ∧ L.Shows defaults (baseLayers defaults A loaded) := by
  simp only [StartupLayers.base, yamlSettings_eq hyaml, Except.bind_eq_ok_iff, Layers.apply_eq_ok_iff] at h
  obtain ⟨yaml, hok, L₁, ⟨hyamlKnown, rfl⟩, environment, henvironment, henvKnown, rfl⟩ := h
  cases hok
  have h₁ := (Layers.shows_defaults defaults).update hyamlKnown .yaml
  rcases environmentSettings_cases hnames with ⟨-, he⟩ | ⟨hreadable, environment', he, hgiven, hkeys⟩
  · cases he.symm.trans henvironment
  · cases he.symm.trans henvironment
    have h₂ := h₁.update (fun k hk => h₁.settings ▸ henvKnown k hk) .environment
    rw [hgiven, flatten_get? hpaths] at h₂
    exact ⟨hreadable, flatten_keys hpaths ▸ hyamlKnown, fun k hk => h₁.settings ▸ henvKnown k ((hkeys k).mpr hk), h₂⟩

theorem exists_base (hyaml : A.LoadsYaml loaded) (hpaths : (yamlNames loaded).Nodup) (hnames : A.environmentNames.Nodup)
    (hreadable : ¬A.Unreadable) (hyamlKnown : ∀ k ∈ yamlNames loaded, k ∈ defaults.keys)
    (henvKnown : ∀ k ∈ A.environmentNames, k ∈ defaults.keys) : ∃ L, A.base defaults = .ok L := by
  have hknown : ∀ k ∈ (flatten loaded).keys, k ∈ defaults.keys := (flatten_keys hpaths).symm ▸ hyamlKnown
  have h₁ := (Layers.shows_defaults defaults).update hknown .yaml
  rcases environmentSettings_cases hnames with ⟨hu, -⟩ | ⟨-, environment, he, -, hkeys⟩
  · exact absurd hu hreadable
  · simp only [StartupLayers.base, yamlSettings_eq hyaml, Except.bind_eq_ok_iff, Layers.apply_eq_ok_iff]
    exact ⟨_, flatten loaded, rfl, _, ⟨hknown, rfl⟩, environment, he,
      fun k hk => h₁.settings.symm ▸ henvKnown k ((hkeys k).mp hk), rfl⟩

end Base

namespace ConfigurationManager

variable {C : Type} {schema : Schema C} {A : StartupLayers} {loaded : List (String × Value)} {S : AdministrativeStore}
  {m : ConfigurationManager C} {layers : List (Layer String Value SettingSource)}

def startLayers (schema : Schema C) (A : StartupLayers) (loaded : List (String × Value)) (S : AdministrativeStore) :
    List (Layer String Value SettingSource) :=
  baseLayers schema.defaults A loaded ++ [⟨.persistedOverride, (overrides S).get?⟩]

def updateLayers (updates : List (Dict String Value)) : List (Layer String Value SettingSource) :=
  updates.map (fun values => ⟨.persistedOverride, values.get?⟩)

def NamesUnknown (schema : Schema C) (A : StartupLayers) (loaded : List (String × Value)) (S : AdministrativeStore) :
    Prop :=
  ∃ k, k ∉ schema.defaults.keys ∧ (k ∈ yamlNames loaded ∨ k ∈ A.environmentNames ∨ k ∈ (overrides S).keys)

def MergedInvalid (schema : Schema C) (layers : List (Layer String Value SettingSource)) : Prop :=
  (inflate (Layers.merged schema.defaults layers)).bind schema.validate = none

structure Precedence (schema : Schema C) (layers : List (Layer String Value SettingSource))
    (m : ConfigurationManager C) : Prop where
  settings : m.values.keys = schema.defaults.keys
  labelled : m.sources.keys = schema.defaults.keys
  decided : ∀ k ∈ schema.defaults.keys, ∃ source v, Decides layers k source v ∧ m.values.get? k = some v ∧
    m.sources.get? k = some source

theorem precedence_of_shows (h : Layers.Shows ⟨m.values, m.sources⟩ schema.defaults layers) :
    Precedence schema layers m where
  settings := h.settings
  labelled := h.labelled
  decided := by
    intro k hk
    have hm : k ∈ m.values.keys := h.settings.symm ▸ hk
    obtain ⟨v, hv⟩ := Dict.mem_keys_iff.mp hm
    obtain ⟨⟨source, w⟩, hhigh, rfl⟩ := Option.map_eq_some_iff.mp ((h.value k).symm.trans hv)
    refine ⟨source, w, highest_eq_some_iff.mp hhigh, hv, (h.source k).trans ?_⟩
    rw [highestSource, hhigh]
    rfl

theorem create_shows (hyaml : A.LoadsYaml loaded) (hpaths : (yamlNames loaded).Nodup)
    (hnames : A.environmentNames.Nodup) (h : create schema A S = .ok m) :
    Layers.Shows ⟨m.values, m.sources⟩ schema.defaults (startLayers schema A loaded S) := by
  obtain ⟨L, hL, hk, hv, hs, -, -, -⟩ := create_eq_ok_iff.mp h
  obtain ⟨-, -, -, hshows⟩ := base_shows hyaml hpaths hnames hL
  rw [hv, hs]
  exact hshows.update (hshows.settings ▸ hk) .persistedOverride

theorem exists_create_iff (hyaml : A.LoadsYaml loaded) (hpaths : (yamlNames loaded).Nodup)
    (hnames : A.environmentNames.Nodup) : (∃ m, create schema A S = .ok m) ↔
      ¬A.Unreadable ∧ ¬NamesUnknown schema A loaded S ∧ ¬MergedInvalid schema (startLayers schema A loaded S) := by
  constructor
  · rintro ⟨m, h⟩
    have hshows := create_shows hyaml hpaths hnames h
    obtain ⟨L, hL, hk, -, -, -, -, hvalid⟩ := create_eq_ok_iff.mp h
    obtain ⟨hreadable, hyamlKnown, henvKnown, hbase⟩ := base_shows hyaml hpaths hnames hL
    refine ⟨hreadable, ?_, ?_⟩
    · rintro ⟨k, hunknown, hk' | hk' | hk'⟩
      · exact hunknown (hyamlKnown k hk')
      · exact hunknown (henvKnown k hk')
      · exact hunknown (hbase.settings ▸ hk k hk')
    · intro hinvalid
      rw [MergedInvalid, ← hshows.values_eq, hvalid] at hinvalid
      cases hinvalid
  · rintro ⟨hreadable, hknown, hvalid⟩
    have hall : ∀ k, (k ∈ yamlNames loaded ∨ k ∈ A.environmentNames ∨ k ∈ (overrides S).keys) →
        k ∈ schema.defaults.keys := fun k hk => by_contra fun hn => hknown ⟨k, hn, hk⟩
    obtain ⟨L, hL⟩ := exists_base hyaml hpaths hnames hreadable (fun k hk => hall k (.inl hk))
      (fun k hk => hall k (.inr (.inl hk)))
    obtain ⟨-, -, -, hbase⟩ := base_shows hyaml hpaths hnames hL
    have hover : ∀ k ∈ (overrides S).keys, k ∈ schema.defaults.keys := fun k hk => hall k (.inr (.inr hk))
    have hshows := hbase.update hover .persistedOverride
    obtain ⟨config, hconfig⟩ := Option.ne_none_iff_exists'.mp hvalid
    refine ⟨⟨_, _, overrides S, S.configVersion, config⟩, create_eq_ok_iff.mpr
      ⟨L, hL, hbase.settings.symm ▸ hover, rfl, rfl, rfl, rfl, ?_⟩⟩
    exact (congrArg (fun values => (inflate values).bind schema.validate) hshows.values_eq).trans hconfig

theorem serve_shows (h : Layers.Shows ⟨m.values, m.sources⟩ schema.defaults layers) (r : UpdateRequest) :
    Layers.Shows ⟨(serve schema (m, S) r).1.values, (serve schema (m, S) r).1.sources⟩ schema.defaults
      (layers ++ updateLayers (successful schema (m, S) [r])) := by
  unfold serve successful
  rcases update_cases schema m S r with ⟨hadm, config, -, he⟩ | ⟨-, e, he⟩
  · rw [he]
    exact h.update (h.settings ▸ hadm.known) .persistedOverride
  · rw [he]
    simpa [successful, updateLayers, Except.isOk, Except.toBool] using h

theorem successful_cons (s : ConfigurationManager C × AdministrativeStore) (r : UpdateRequest)
    (rs : List UpdateRequest) :
    successful schema s (r :: rs) = successful schema s [r] ++ successful schema (serve schema s r) rs := by
  simp only [successful]
  split <;> rfl

theorem serveAll_shows (h : Layers.Shows ⟨m.values, m.sources⟩ schema.defaults layers) (rs : List UpdateRequest) :
    Layers.Shows ⟨(serveAll schema (m, S) rs).1.values, (serveAll schema (m, S) rs).1.sources⟩ schema.defaults
      (layers ++ updateLayers (successful schema (m, S) rs)) := by
  induction rs generalizing m S layers with
  | nil => simpa [serveAll, successful, updateLayers] using h
  | cons r rs ih =>
    rw [successful_cons, updateLayers, List.map_append, ← List.append_assoc]
    exact ih (serve_shows h r)

theorem layers_precedence (schema : Schema C) (A : StartupLayers) (S : AdministrativeStore)
    {loaded : List (String × Value)} (hyaml : A.LoadsYaml loaded) (hpaths : (yamlNames loaded).Nodup)
    (hnames : A.environmentNames.Nodup) :
    ((∃ e, create schema A S = .error e) ↔
      A.Unreadable ∨ NamesUnknown schema A loaded S ∨ MergedInvalid schema (startLayers schema A loaded S)) ∧
    ∀ m, create schema A S = .ok m → ∀ rs : List UpdateRequest,
      Precedence schema (startLayers schema A loaded S ++ updateLayers (successful schema (m, S) rs))
        (serveAll schema (m, S) rs).1 := by
  constructor
  · have hcreate : (∃ m, create schema A S = .ok m) ↔ _ := exists_create_iff hyaml hpaths hnames
    cases hc : create schema A S with
    | error e =>
      simp only [hc, reduceCtorEq, exists_false, false_iff] at hcreate
      exact iff_of_true ⟨e, rfl⟩ (by tauto)
    | ok m =>
      have hfine := hcreate.mp ⟨m, hc⟩
      exact iff_of_false (by simp) (by tauto)
  · intro m hm rs
    exact precedence_of_shows (serveAll_shows (create_shows hyaml hpaths hnames hm) rs)

def layeredStart : StartupLayers where
  safeLoad := fun text =>
    if text = "true" then some (.bool true)
    else some (.map [("bluetooth", .map [("scan_duration", .int 7)])])
  yamlText := some "bluetooth:\n  scan_duration: 7\n"
  environ := Dict.ofList [("PITBLU_MANAGED", "true"), ("PITBLU_MQTT__ENABLED", "true")]

def scanDurationUpdates : List UpdateRequest :=
  [⟨Dict.ofList [("bluetooth.scan_duration", .int 8)], 1⟩, ⟨Dict.empty, 1⟩]

theorem layers_precedence_scanDuration : ∃ m, create (AppConfig.schema .numeric) layeredStart .create = .ok m ∧
    Precedence (AppConfig.schema .numeric)
      (startLayers (AppConfig.schema .numeric) layeredStart [("bluetooth", .map [("scan_duration", .int 7)])] .create ++
        updateLayers (successful (AppConfig.schema .numeric) (m, .create) scanDurationUpdates))
      (serveAll (AppConfig.schema .numeric) (m, .create) scanDurationUpdates).1 := by
  have hok : (create (AppConfig.schema .numeric) layeredStart .create).isOk := by decide +kernel
  obtain ⟨m, hm⟩ := Except.exists_of_isOk hok
  refine ⟨m, hm, ?_⟩
  exact (layers_precedence (AppConfig.schema .numeric) layeredStart .create ⟨_, rfl, .inl rfl⟩ (by decide +kernel)
    (by decide +kernel)).2 m hm scanDurationUpdates

example : ((create (AppConfig.schema .numeric) layeredStart .create).toOption.map (fun m =>
    let m := (serveAll (AppConfig.schema .numeric) (m, .create) scanDurationUpdates).1
    ["bluetooth.scan_duration", "mqtt.enabled", "server.port"].map m.sources.get?)) =
      some [some .persistedOverride, some .environment, some .default] := by decide +kernel

end ConfigurationManager

end PitbluCore
