import PitbluCore.ConfigurationUpdates
import PitbluCore.Library.Runs
import PitbluCore.SettingPaths

namespace PitbluCore

open Library ConfigurationManager

inductive StartupError
  | missingFile
  | configuration (e : ConfigurationError)
  | tokenRequired
  | bootstrapRequired
  deriving DecidableEq

/-- The host of a process: its environment, the texts of its regular files and its YAML loader. -/
structure Host where
  safeLoad : String → Option Value
  files : String → Option String
  environ : Dict String String

namespace Host

def managed (E : Host) : Bool := E.environ.get? "PITBLU_MANAGED" = some "true"

def startupLayers (E : Host) : StartupLayers where
  safeLoad := E.safeLoad
  yamlText := (E.environ.get? "PITBLU_CONFIG_FILE").bind E.files
  environ := E.environ

def fileMissing (E : Host) : Bool := (E.environ.get? "PITBLU_CONFIG_FILE").any (fun name => (E.files name).isNone)

end Host

def tokenConfigured (S : AdministrativeStore) : Bool := S.authRecord.isSome

def startupConfiguration (P : Pydantic) (E : Host) (S : AdministrativeStore) :
    Except StartupError (ConfigurationManager AppConfig) :=
  if E.fileMissing then .error .missingFile
  else match create (AppConfig.schema P) E.startupLayers S with
    | .error e => .error (.configuration e)
    | .ok m =>
      if E.managed && m.config.auth.mode ≠ .token then .error .tokenRequired
      else if E.managed && !tokenConfigured S then .error .bootstrapRequired
      else .ok m

inductive IfMatch
  | missing
  | notInteger
  | version (v : ℤ)

inductive AdministrativeRequest
  | patchConfig (values : Dict String Value) (ifMatch : IfMatch)
  | rotateToken (record : AuthRecord)

inductive RequestError
  | ifMatchRequired
  | versionInvalid
  | tokenNotConfigured
  | versionConflict (currentVersion : ℤ)
  | value (e : ConfigurationError)

def isTokenMode : Option Value → Bool
  | some (.str s) => s = "token"
  | _ => false

def patchConfig (P : Pydantic) (m : ConfigurationManager AppConfig) (S : AdministrativeStore)
    (values : Dict String Value) (ifMatch : IfMatch) :
    Except RequestError (ConfigurationManager AppConfig × AdministrativeStore) :=
  match ifMatch with
  | .missing => .error .ifMatchRequired
  | .notInteger => .error .versionInvalid
  | .version expected =>
    if isTokenMode (values.get? "auth.mode") && !tokenConfigured S then .error .tokenNotConfigured
    else match m.update (AppConfig.schema P) S values expected with
      | (.ok _, m, S) => .ok (m, S)
      | (.error (.versionConflict current), _) => .error (.versionConflict current)
      | (.error e, _) => .error (.value e)

def administer (P : Pydantic) (s : ConfigurationManager AppConfig × AdministrativeStore) :
    AdministrativeRequest → Option (ConfigurationManager AppConfig × AdministrativeStore)
  | .patchConfig values ifMatch => (patchConfig P s.1 s.2 values ifMatch).toOption
  | .rotateToken record => some (s.1, s.2.setAuthRecord record)

def lastMode : List AdministrativeRequest → Option Value
  | [] => none
  | .patchConfig values _ :: requests => (lastMode requests).or (values.get? "auth.mode")
  | .rotateToken _ :: requests => lastMode requests

section Startup

variable {P : Pydantic} {E : Host} {S : AdministrativeStore} {m : ConfigurationManager AppConfig}

theorem modelValidate_auth {entries : List (String × Value)} {config : AppConfig}
    (h : AppConfig.modelValidate P entries = some config) : AuthConfig.modelValidate entries = some config.auth := by
  unfold AppConfig.modelValidate at h
  dsimp only at h
  split at h
  · obtain ⟨server, -, h⟩ := Option.bind_eq_some_iff.mp h
    obtain ⟨auth, hauth, h⟩ := Option.bind_eq_some_iff.mp h
    obtain ⟨bluetooth, -, h⟩ := Option.bind_eq_some_iff.mp h
    obtain ⟨polling, -, h⟩ := Option.bind_eq_some_iff.mp h
    obtain ⟨mqtt, -, h⟩ := Option.bind_eq_some_iff.mp h
    obtain ⟨simulation, -, h⟩ := Option.bind_eq_some_iff.mp h
    obtain ⟨security, -, h⟩ := Option.bind_eq_some_iff.mp h
    split at h
    · cases h
      exact hauth
    · cases h
  · cases h

theorem modelValidate_mode {entries : List (String × Value)} {config : AppConfig}
    (h : AppConfig.modelValidate P entries = some config) {v : Value} (hv : settingAt entries "auth" "mode" = some v) :
    config.auth.mode = .token ↔ v = .str "token" := by
  have hauth := modelValidate_auth h
  unfold settingAt at hv
  split at hv
  · rename_i below hbelow
    unfold AuthConfig.modelValidate at hauth
    obtain ⟨s, hs, hfield⟩ := Option.bind_eq_some_iff.mp hauth
    obtain ⟨mode, hmode, hpure⟩ := Option.bind_eq_some_iff.mp hfield
    simp only [sectionOf, hbelow] at hs
    split at hs
    · cases hs
      rw [← Option.some.inj hpure]
      simp only [field, hv] at hmode
      cases v with
      | str text =>
        simp only [Pydantic.literal, lookup_cons_ite] at hmode
        split at hmode
        · rename_i hd
          cases hmode
          simp [hd]
        · split at hmode
          · rename_i ht
            cases hmode
            simp [ht]
          · cases hmode
      | _ => cases hmode
    · cases hs
  · cases hv

theorem startupConfiguration_eq_ok_iff (hm : E.managed) : startupConfiguration P E S = .ok m ↔
    ¬E.fileMissing ∧ create (AppConfig.schema P) E.startupLayers S = .ok m ∧ m.config.auth.mode = .token ∧
      tokenConfigured S := by
  unfold startupConfiguration
  by_cases hf : E.fileMissing
  · simp [hf]
  · cases hc : create (AppConfig.schema P) E.startupLayers S with
    | error e => simp [hf]
    | ok m₀ =>
      by_cases ht : m₀.config.auth.mode = .token
      · by_cases hb : tokenConfigured S
        · simp only [hf, hm, ht, hb, ne_eq, not_true_eq_false, decide_false, Bool.and_false, Bool.false_eq_true,
            ↓reduceIte, Bool.not_true, Except.ok.injEq, not_false_eq_true, true_and, and_true]
          exact ⟨fun h => ⟨h, h ▸ ht⟩, And.left⟩
        · simp [hf, hm, ht, hb]
      · simp only [hf, hm, ht, ne_eq, not_false_eq_true, decide_true, Bool.and_self, ↓reduceIte, Except.ok.injEq,
          true_and, Bool.false_eq_true, reduceCtorEq, false_iff, not_and]
        intro h
        exact fun hmode => absurd (h ▸ hmode) ht

structure Administered (P : Pydantic) (E : Host) (mode : Option Value)
    (s : ConfigurationManager AppConfig × AdministrativeStore) : Prop where
  create : create (AppConfig.schema P) E.startupLayers s.2 = .ok s.1
  configured : tokenConfigured s.2
  mode : s.1.values.get? "auth.mode" = mode

theorem administer_keeps {s t : ConfigurationManager AppConfig × AdministrativeStore} {mode : Option Value}
    (h : Administered P E mode s) {r : AdministrativeRequest} (hr : administer P s r = some t) :
    Administered P E ((lastMode [r]).or mode) t := by
  cases r with
  | rotateToken record =>
    cases hr
    exact ⟨h.create, rfl, h.mode⟩
  | patchConfig values ifMatch =>
    cases ifMatch with
    | missing | notInteger => cases hr
    | version expected =>
      unfold administer patchConfig at hr
      dsimp only at hr
      split at hr
      · cases hr
      · have hcreate := update_create h.create ⟨values, expected⟩
        rcases update_cases (AppConfig.schema P) s.1 s.2 ⟨values, expected⟩ with ⟨-, config, -, he⟩ | ⟨-, e, he⟩
        · dsimp only at he hcreate
          rw [he] at hr hcreate
          cases hr
          exact ⟨hcreate, h.configured, by simp [lastMode, h.mode]⟩
        · dsimp only at he
          rw [he] at hr
          cases e <;> cases hr

theorem administer_run {s t : ConfigurationManager AppConfig × AdministrativeStore} {mode : Option Value}
    (h : Administered P E mode s) {rs : List AdministrativeRequest} (hr : replay (administer P) s rs = some t) :
    Administered P E ((lastMode rs).or mode) t := by
  induction rs generalizing s mode with
  | nil =>
    cases hr
    exact h
  | cons r rs ih =>
    obtain ⟨u, hu, ht⟩ := Option.bind_eq_some_iff.mp hr
    have hrun := ih (administer_keeps h hu) ht
    cases r with
    | rotateToken record => simpa [lastMode] using hrun
    | patchConfig values ifMatch => simpa [lastMode, Option.or_assoc] using hrun

theorem create_mode (h : create (AppConfig.schema P) E.startupLayers S = .ok m) :
    ∃ v, m.values.get? "auth.mode" = some v ∧ (m.config.auth.mode = .token ↔ v = .str "token") := by
  have hkeys := (create_keys h).1
  have hmem : "auth.mode" ∈ m.values.keys := by
    rw [hkeys, AppConfig.schema_keys]
    decide
  obtain ⟨v, hv⟩ := Dict.mem_keys_iff.mp hmem
  obtain ⟨L, -, -, -, -, -, -, hc⟩ := create_eq_ok_iff.mp h
  obtain ⟨root, hroot, hvalid⟩ := Option.bind_eq_some_iff.mp hc
  have h2 : ∀ k ∈ m.values.keys, TwoSegments k := fun k hk => AppConfig.schema_twoSegments P k (hkeys ▸ hk)
  have hset : settingAt root "auth" "mode" = m.values.get? "auth.mode" :=
    inflate_settingAt h2 hroot (by decide +kernel)
  exact ⟨v, hv, modelValidate_mode hvalid (hset.trans hv)⟩

theorem restarts_iff (hm : E.managed) (hstart : startupConfiguration P E S = .ok m)
    {rs : List AdministrativeRequest} {t : ConfigurationManager AppConfig × AdministrativeStore}
    (hr : replay (administer P) (m, S) rs = some t) :
    (startupConfiguration P E t.2).isOk ↔ ∀ v, lastMode rs = some v → v = .str "token" := by
  obtain ⟨hfile, hcreate, htoken, hconf⟩ := (startupConfiguration_eq_ok_iff hm).mp hstart
  obtain ⟨v, hv, hmode⟩ := create_mode hcreate
  have hend := administer_run ⟨hcreate, hconf, hv⟩ hr
  obtain ⟨v', hv', hmode'⟩ := create_mode hend.create
  have hlast : (lastMode rs).or (some v) = some v' := hend.mode.symm.trans hv'
  have hok : (startupConfiguration P E t.2).isOk ↔ t.1.config.auth.mode = .token := by
    constructor
    · intro hok
      obtain ⟨m', hs⟩ := Except.exists_of_isOk hok
      obtain ⟨-, hc', ht', -⟩ := (startupConfiguration_eq_ok_iff hm).mp hs
      cases hend.create.symm.trans hc'
      exact ht'
    · intro ht
      rw [(startupConfiguration_eq_ok_iff hm).mpr ⟨hfile, hend.create, ht, hend.configured⟩]
      rfl
  rw [hok, hmode']
  cases hl : lastMode rs with
  | none =>
    rw [hl] at hlast
    cases hlast
    simp [hmode.mp htoken]
  | some u =>
    rw [hl] at hlast
    cases hlast
    simp

end Startup

def managedHost : Host where
  safeLoad := fun text => some (.str text)
  files := fun _ => none
  environ := Dict.ofList [("PITBLU_MANAGED", "true"), ("PITBLU_AUTH__MODE", "token")]

def bootstrapped : AdministrativeStore := AdministrativeStore.create.setAuthRecord ⟨[1], [2], 0⟩

def patchMode (mode : String) (version : ℤ) : AdministrativeRequest :=
  .patchConfig (Dict.ofList [("auth.mode", .str mode)]) (.version version)

def restarts (rs : List AdministrativeRequest) : Option Bool :=
  match startupConfiguration .numeric managedHost bootstrapped with
  | .error _ => none
  | .ok m => (replay (administer .numeric) (m, bootstrapped) rs).map
      (fun t => (startupConfiguration .numeric managedHost t.2).isOk)

theorem exists_of_restarts {rs : List AdministrativeRequest} {b : Bool} (h : restarts rs = some b) :
    ∃ m t, startupConfiguration .numeric managedHost bootstrapped = .ok m ∧
      replay (administer .numeric) (m, bootstrapped) rs = some t ∧
      (startupConfiguration .numeric managedHost t.2).isOk = b := by
  unfold restarts at h
  cases hs : startupConfiguration .numeric managedHost bootstrapped with
  | error e =>
    rw [hs] at h
    cases h
  | ok m =>
    rw [hs] at h
    obtain ⟨t, ht, hb⟩ := Option.map_eq_some_iff.mp h
    exact ⟨m, t, rfl, ht, hb⟩

theorem restarts_iff_kept : ∃ m t, startupConfiguration .numeric managedHost bootstrapped = .ok m ∧
    replay (administer .numeric) (m, bootstrapped) [.rotateToken ⟨[3], [4], 1⟩, patchMode "token" 1] = some t ∧
    ((startupConfiguration .numeric managedHost t.2).isOk ↔
      ∀ v, lastMode [.rotateToken ⟨[3], [4], 1⟩, patchMode "token" 1] = some v → v = .str "token") := by
  have hrun : restarts [.rotateToken ⟨[3], [4], 1⟩, patchMode "token" 1] = some true := by decide +kernel
  obtain ⟨m, t, hm, ht, -⟩ := exists_of_restarts hrun
  exact ⟨m, t, hm, ht, restarts_iff (by decide) hm ht⟩

/-- On a loopback binding a patch to disabled mode is accepted, and the next startup fails. -/
theorem restarts_locked_out : ¬∀ (E : Host) (S : AdministrativeStore) (m : ConfigurationManager AppConfig)
    (rs : List AdministrativeRequest) (t : ConfigurationManager AppConfig × AdministrativeStore),
    E.managed → startupConfiguration .numeric E S = .ok m → replay (administer .numeric) (m, S) rs = some t →
    (startupConfiguration .numeric E t.2).isOk := by
  intro hall
  have hrun : restarts [patchMode "disabled" 1] = some false := by decide +kernel
  obtain ⟨m, t, hm, ht, hfail⟩ := exists_of_restarts hrun
  rw [hall managedHost bootstrapped m _ t (by decide) hm ht] at hfail
  cases hfail

end PitbluCore
