import PitbluCore.ConfigurationManager

namespace PitbluCore

open Library

theorem firstUnknown_eq_none_iff {values known : Dict String Value} :
    firstUnknown values known = none ↔ ∀ k ∈ values.keys, k ∈ known.keys := by
  have hfold : ∀ (l : List String) (o : Option String),
      l.foldl (fun least k => some (lesser least k)) o = none ↔ l = [] ∧ o = none := by
    intro l
    induction l with
    | nil => simp
    | cons k l ih =>
      intro o
      rw [List.foldl_cons, ih]
      simp
  rw [firstUnknown, hfold]
  simp only [and_true, List.filter_eq_nil_iff, Dict.contains, Dict.mem_keys_iff, Bool.not_eq_true',
    Option.isSome_eq_false_iff, Option.isNone_iff_eq_none, Option.ne_none_iff_exists']

theorem Layers.apply_eq_ok_iff {L L' : Layers} {values : Dict String Value} {source : SettingSource} :
    L.apply values source = .ok L' ↔ (∀ k ∈ values.keys, k ∈ L.values.keys) ∧
      L' = ⟨L.values.update values, L.sources.update (values.mapValues (fun _ => source))⟩ := by
  rw [← firstUnknown_eq_none_iff, Layers.apply]
  cases firstUnknown values L.values with
  | none => simp [eq_comm]
  | some path => simp

def Layers.Aligned (L : Layers) : Prop := L.sources.keys = L.values.keys

theorem Layers.apply_aligned {L L' : Layers} {values : Dict String Value} {source : SettingSource}
    (h : L.Aligned) (ha : L.apply values source = .ok L') : L'.Aligned := by
  obtain ⟨hk, rfl⟩ := apply_eq_ok_iff.mp ha
  rw [Aligned, Dict.keys_update hk, Dict.keys_update, h]
  rwa [Dict.keys_mapValues, h]

theorem Except.bind_eq_ok_iff {α β ε : Type} {x : Except ε α} {f : α → Except ε β} {b : β} :
    x >>= f = .ok b ↔ ∃ a, x = .ok a ∧ f a = .ok b := by
  cases x with
  | error e => simp [bind, Except.bind]
  | ok a => simp [bind, Except.bind]

theorem Except.exists_of_isOk {α ε : Type} {x : Except ε α} (h : x.isOk) : ∃ a, x = .ok a := by
  cases x with
  | error e => cases h
  | ok a => exact ⟨a, rfl⟩

theorem StartupLayers.base_keys {A : StartupLayers} {defaults : Dict String Value} {L : Layers}
    (h : A.base defaults = .ok L) : L.values.keys = defaults.keys := by
  simp only [base, Except.bind_eq_ok_iff] at h
  obtain ⟨yaml, -, L₁, h₁, environment, -, h₂⟩ := h
  obtain ⟨hk₁, rfl⟩ := Layers.apply_eq_ok_iff.mp h₁
  obtain ⟨hk₂, rfl⟩ := Layers.apply_eq_ok_iff.mp h₂
  rw [Dict.keys_update hk₂, Dict.keys_update hk₁]

theorem StartupLayers.base_aligned {A : StartupLayers} {defaults : Dict String Value} {L : Layers}
    (h : A.base defaults = .ok L) : L.Aligned := by
  simp only [base, Except.bind_eq_ok_iff] at h
  obtain ⟨yaml, -, L₁, h₁, environment, -, h₂⟩ := h
  have h₀ : Layers.Aligned ⟨defaults, defaults.mapValues (fun _ => .default)⟩ := Dict.keys_mapValues _ _
  exact Layers.apply_aligned (Layers.apply_aligned h₀ h₁) h₂

namespace ConfigurationManager

variable {C : Type} {schema : Schema C} {A : StartupLayers} {S : AdministrativeStore} {m : ConfigurationManager C}

theorem candidate_eq_ok_iff {values : Dict String Value} {config : C} :
    candidate schema values = .ok config ↔ (inflate values).bind schema.validate = some config := by
  unfold candidate
  cases (inflate values).bind schema.validate <;> simp

def overrides (S : AdministrativeStore) : Dict String Value := S.configOverrides.mapValues JsonText.loads

theorem create_eq_ok_iff : create schema A S = .ok m ↔ ∃ L, A.base schema.defaults = .ok L ∧
    (∀ k ∈ (overrides S).keys, k ∈ L.values.keys) ∧ m.values = L.values.update (overrides S) ∧
    m.sources = L.sources.update ((overrides S).mapValues (fun _ => .persistedOverride)) ∧
    m.persisted = overrides S ∧ m.version = S.configVersion ∧
    (inflate m.values).bind schema.validate = some m.config := by
  simp only [create, Except.bind_eq_ok_iff, Layers.apply_eq_ok_iff, candidate_eq_ok_iff]
  constructor
  · rintro ⟨L, hL, _, ⟨hk, rfl⟩, config, hc, hm⟩
    cases hm
    exact ⟨L, hL, hk, rfl, rfl, rfl, rfl, hc⟩
  · rintro ⟨L, hL, hk, hv, hs, hp, hver, hc⟩
    refine ⟨L, hL, _, ⟨hk, rfl⟩, m.config, hv ▸ hc, ?_⟩
    cases m
    cases hv
    cases hs
    cases hp
    cases hver
    rfl

theorem create_keys (h : create schema A S = .ok m) :
    m.values.keys = schema.defaults.keys ∧ m.sources.keys = schema.defaults.keys := by
  obtain ⟨L, hL, hk, hv, hs, -⟩ := create_eq_ok_iff.mp h
  have hkeys := A.base_keys hL
  have halign : L.sources.keys = L.values.keys := A.base_aligned hL
  constructor
  · rw [hv, Dict.keys_update hk, hkeys]
  · rw [hs, Dict.keys_update, halign, hkeys]
    rwa [Dict.keys_mapValues, halign]

structure UpdateRequest where
  values : Dict String Value
  expectedVersion : ℤ

structure Admissible (schema : Schema C) (m : ConfigurationManager C) (S : AdministrativeStore)
    (r : UpdateRequest) : Prop where
  known : ∀ k ∈ r.values.keys, k ∈ m.values.keys
  valid : ∃ config, (inflate (m.values.update r.values)).bind schema.validate = some config
  current : r.expectedVersion = S.configVersion

theorem update_cases (schema : Schema C) (m : ConfigurationManager C) (S : AdministrativeStore) (r : UpdateRequest) :
    (Admissible schema m S r ∧ ∃ config, (inflate (m.values.update r.values)).bind schema.validate = some config ∧
      m.update schema S r.values r.expectedVersion = (.ok config,
        { values := m.values.update r.values
          sources := m.sources.update (r.values.mapValues (fun _ => .persistedOverride))
          persisted := m.persisted.update r.values
          version := S.configVersion + 1
          config := config },
        { S with configOverrides := (m.persisted.update r.values).mapValues JsonText.mk
                 configVersion := S.configVersion + 1 })) ∨
    (¬Admissible schema m S r ∧ ∃ e, m.update schema S r.values r.expectedVersion = (.error e, m, S)) := by
  unfold update validatePatch
  cases hu : firstUnknown r.values m.values with
  | some path =>
    refine .inr ⟨fun h => ?_, _, rfl⟩
    rw [firstUnknown_eq_none_iff.mpr h.known] at hu
    cases hu
  | none =>
    have hknown := firstUnknown_eq_none_iff.mp hu
    dsimp only
    cases hc : candidate schema (m.values.update r.values) with
    | error e =>
      refine .inr ⟨fun h => ?_, _, rfl⟩
      obtain ⟨config, hconfig⟩ := h.valid
      rw [candidate_eq_ok_iff.mpr hconfig] at hc
      cases hc
    | ok config =>
      have hvalid := candidate_eq_ok_iff.mp hc
      dsimp only [AdministrativeStore.replaceConfig]
      by_cases hver : S.configVersion = r.expectedVersion
      · refine .inl ⟨⟨hknown, ⟨config, hvalid⟩, hver.symm⟩, config, hvalid, ?_⟩
        simp [hver]
      · refine .inr ⟨fun h => hver h.current.symm, .versionConflict S.configVersion, ?_⟩
        simp [hver]

theorem update_create (h : create schema A S = .ok m) (r : UpdateRequest) :
    create schema A (m.update schema S r.values r.expectedVersion).2.2 =
      .ok (m.update schema S r.values r.expectedVersion).2.1 := by
  rcases update_cases schema m S r with ⟨hadm, config, hvalid, he⟩ | ⟨-, e, he⟩
  · obtain ⟨L, hL, hk, hv, hs, hp, hver, -⟩ := create_eq_ok_iff.mp h
    have hkeys : m.values.keys = L.values.keys := by rw [hv, Dict.keys_update hk]
    have hnew : ∀ k ∈ r.values.keys, k ∈ L.values.keys := fun k hm => hkeys ▸ hadm.known k hm
    have hover : overrides (m.update schema S r.values r.expectedVersion).2.2 = m.persisted.update r.values := by
      rw [he]
      exact Dict.mapValues_mapValues_cancel (fun _ => rfl) _
    rw [create_eq_ok_iff, hover, he, hp]
    have halign : L.sources.keys = L.values.keys := A.base_aligned hL
    refine ⟨L, hL, fun k hm => (Dict.mem_keys_update.mp hm).elim (hnew k) (hk k), ?_, ?_, rfl, rfl, hvalid⟩
    · dsimp only
      rw [hv, Dict.update_update hk hnew]
    · dsimp only
      rw [hs, Dict.mapValues_update, Dict.update_update]
      · rwa [Dict.keys_mapValues, halign]
      · rwa [Dict.keys_mapValues, halign]
  · rw [he]
    exact h

def serve (schema : Schema C) (s : ConfigurationManager C × AdministrativeStore) (r : UpdateRequest) :
    ConfigurationManager C × AdministrativeStore :=
  (s.1.update schema s.2 r.values r.expectedVersion).2

def serveAll (schema : Schema C) (s : ConfigurationManager C × AdministrativeStore) (rs : List UpdateRequest) :
    ConfigurationManager C × AdministrativeStore :=
  rs.foldl (serve schema) s

def successful (schema : Schema C) :
    ConfigurationManager C × AdministrativeStore → List UpdateRequest → List (Dict String Value)
  | _, [] => []
  | s, r :: rs =>
    if (s.1.update schema s.2 r.values r.expectedVersion).1.isOk then
      r.values :: successful schema (serve schema s r) rs
    else successful schema (serve schema s r) rs

theorem serveAll_create (h : create schema A S = .ok m) (rs : List UpdateRequest) :
    create schema A (serveAll schema (m, S) rs).2 = .ok (serveAll schema (m, S) rs).1 := by
  induction rs generalizing m S with
  | nil => exact h
  | cons r rs ih => exact ih (update_create h r)

theorem serve_overrides (h : create schema A S = .ok m) (r : UpdateRequest) :
    overrides (serve schema (m, S) r).2 =
      if (m.update schema S r.values r.expectedVersion).1.isOk then (overrides S).update r.values else overrides S := by
  obtain ⟨L, -, -, -, -, hp, -, -⟩ := create_eq_ok_iff.mp h
  unfold serve
  rcases update_cases schema m S r with ⟨-, config, -, he⟩ | ⟨-, e, he⟩
  · rw [he, ← hp]
    exact Dict.mapValues_mapValues_cancel (fun _ => rfl) _
  · rw [he]
    rfl

theorem serveAll_overrides (h : create schema A S = .ok m) (rs : List UpdateRequest) :
    overrides (serveAll schema (m, S) rs).2 = (successful schema (m, S) rs).foldl Dict.update (overrides S) := by
  induction rs generalizing m S with
  | nil => rfl
  | cons r rs ih =>
    calc overrides (serveAll schema (m, S) (r :: rs)).2
        = (successful schema (serve schema (m, S) r) rs).foldl Dict.update (overrides (serve schema (m, S) r).2) :=
          ih (update_create h r)
      _ = (successful schema (m, S) (r :: rs)).foldl Dict.update (overrides S) := by
          rw [serve_overrides h, successful]
          dsimp only
          split <;> rfl

structure UpdateLaw (schema : Schema C) (A : StartupLayers) (start s t : ConfigurationManager C × AdministrativeStore)
    (rs : List UpdateRequest) (r : UpdateRequest) (succeeded : Bool) : Prop where
  succeeds_iff : succeeded ↔ Admissible schema s.1 s.2 r
  version : succeeded → t.2.configVersion = s.2.configVersion + 1
  unchanged : ¬succeeded → t = s
  overlaid : overrides s.2 = (successful schema start rs).foldl Dict.update (overrides start.2)
  restart : create schema A s.2 = .ok s.1

theorem updates_atomic (h : create schema A S = .ok m) (rs : List UpdateRequest) (r : UpdateRequest) :
    let s := serveAll schema (m, S) rs
    UpdateLaw schema A (m, S) s (serve schema s r) rs r (s.1.update schema s.2 r.values r.expectedVersion).1.isOk := by
  have hcreate := serveAll_create h rs
  have hover := serveAll_overrides h rs
  generalize serveAll schema (m, S) rs = s at hcreate hover ⊢
  unfold serve
  rcases update_cases schema s.1 s.2 r with ⟨hadm, config, -, he⟩ | ⟨hadm, e, he⟩
  · dsimp only
    rw [he]
    exact ⟨⟨fun _ => hadm, fun _ => rfl⟩, fun _ => rfl, fun hn => absurd rfl hn, hover, hcreate⟩
  · dsimp only
    rw [he]
    exact ⟨⟨fun hok => Bool.noConfusion hok, fun ha => absurd ha hadm⟩, fun hok => Bool.noConfusion hok,
      fun _ => rfl, hover, hcreate⟩

def managedStart (mode : String) : StartupLayers where
  safeLoad := fun text => some (.str text)
  yamlText := none
  environ := Dict.ofList [("PITBLU_MANAGED", "true"), ("PITBLU_AUTH__MODE", mode)]

def portUpdate (port expectedVersion : ℤ) : UpdateRequest := ⟨Dict.ofList [("server.port", .int port)], expectedVersion⟩

theorem updates_atomic_ports : ∃ m, create (AppConfig.schema .numeric) (managedStart "token") .create = .ok m ∧
    let schema := AppConfig.schema .numeric
    let s := serveAll schema (m, .create) [portUpdate 8081 1, portUpdate 8082 1]
    UpdateLaw schema (managedStart "token") (m, .create) s (serve schema s (portUpdate 8083 2))
      [portUpdate 8081 1, portUpdate 8082 1] (portUpdate 8083 2)
      (s.1.update schema s.2 (portUpdate 8083 2).values 2).1.isOk := by
  have hok : (create (AppConfig.schema .numeric) (managedStart "token") .create).isOk := by decide +kernel
  obtain ⟨m, hm⟩ := Except.exists_of_isOk hok
  exact ⟨m, hm, updates_atomic hm [portUpdate 8081 1, portUpdate 8082 1] (portUpdate 8083 2)⟩

end ConfigurationManager

end PitbluCore
