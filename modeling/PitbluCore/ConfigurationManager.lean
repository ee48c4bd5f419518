import PitbluCore.Configuration

namespace PitbluCore

open Library

/-- `AppConfig().model_dump()`: defaults are not validated, so seconds stay integers. -/
def defaultDump : List (String × Value) :=
  [("server", .map [("bind", .str "127.0.0.1"), ("port", .int 8080), ("cors_origins", .list [])]),
   ("auth", .map [("mode", .str "disabled")]),
   ("bluetooth", .map [("scan_duration", .int 5), ("missing_scan_interval", .int 15),
     ("connected_scan_interval", .int 60), ("connect_timeout", .int 20), ("initialise_timeout", .int 15),
     ("read_timeout", .int 5)]),
   ("polling", .map [("probe_interval", .int 5), ("battery_interval", .int 300), ("stale_after", .int 15),
     ("thermometer_heartbeat_stale_after", .int 15), ("degraded_after_failures", .int 3),
     ("forced_reconnect_after", .int 30), ("availability_heartbeat", .int 60), ("stable_backoff_reset", .int 60)]),
   ("mqtt", .map [("enabled", .bool false), ("host", .str "127.0.0.1"), ("port", .int 1883), ("tls", .bool false),
     ("username", .null), ("base_topic", .str "pitblu"), ("qos", .int 1)]),
   ("simulation", .map [("enabled", .bool false), ("probe_count", .int 4)]),
   ("security", .map [("auth_requests_per_minute", .int 300), ("mutations_per_minute", .int 30),
     ("maximum_body_bytes", .int 16384), ("maximum_sse_clients", .int 8)])]

structure Schema (C : Type) where
  defaults : Dict String Value
  validate : List (String × Value) → Option C

def AppConfig.schema (P : Pydantic) : Schema AppConfig := ⟨flatten defaultDump, AppConfig.modelValidate P⟩

inductive ConfigurationError
  | unknownSetting (path : String)
  | invalidYaml
  | notAnObject
  | invalidSettings
  | versionConflict (currentVersion : ℤ)
  deriving DecidableEq

inductive SettingSource
  | default
  | yaml
  | environment
  | persistedOverride
  deriving DecidableEq

def SettingSource.value : SettingSource → String
  | .default => "default"
  | .yaml => "yaml"
  | .environment => "environment"
  | .persistedOverride => "persisted_override"

def replaceDunder : List Char → List Char
  | '_' :: '_' :: l => '.' :: replaceDunder l
  | c :: l => c :: replaceDunder l
  | [] => []

/-- `str.lower` as far as ASCII comes of it: of the other characters only the Kelvin sign becomes an ASCII letter. -/
def lowerCase (c : Char) : Char := if c = Char.ofNat 0x212A then 'k' else c.toLower

def settingName (variableName : String) : String :=
  String.ofList (replaceDunder ((variableName.toList.drop "PITBLU_".length).map lowerCase))

def deploymentControls : List String := ["PITBLU_DATABASE_PATH", "PITBLU_CONFIG_FILE", "PITBLU_MANAGED"]

def isSetting (variableName : String) : Bool :=
  "PITBLU_".toList.isPrefixOf variableName.toList && variableName ∉ deploymentControls

def lesser (least : Option String) (path : String) : String :=
  match least with
  | some l => if path < l then path else l
  | none => path

def firstUnknown (values : Dict String Value) (known : Dict String Value) : Option String :=
  (values.keys.filter (fun k => !known.contains k)).foldl (fun least k => some (lesser least k)) none

structure Layers where
  values : Dict String Value
  sources : Dict String SettingSource

def Layers.apply (L : Layers) (values : Dict String Value) (source : SettingSource) :
    Except ConfigurationError Layers :=
  match firstUnknown values L.values with
  | some path => .error (.unknownSetting path)
  | none => .ok ⟨L.values.update values, L.sources.update (values.mapValues (fun _ => source))⟩

/-- What a process finds at its start besides the store: the text of its YAML file, if there is one, its
environment and `yaml.safe_load`. -/
structure StartupLayers where
  safeLoad : String → Option Value
  yamlText : Option String
  environ : Dict String String

namespace StartupLayers

def yamlSettings (A : StartupLayers) : Except ConfigurationError (Dict String Value) :=
  match A.yamlText with
  | none => .ok Dict.empty
  | some text =>
    match A.safeLoad text with
    | none => .error .invalidYaml
    | some (.map loaded) => .ok (flatten loaded)
    | some loaded => if loaded.truthy then .error .notAnObject else .ok Dict.empty

def environmentSettings (A : StartupLayers) : Except ConfigurationError (Dict String Value) :=
  match (A.environ.entries.filter (fun e => isSetting e.1)).mapM
      (fun e => (A.safeLoad e.2).map (fun v => (settingName e.1, v))) with
  | none => .error .invalidYaml
  | some settings => .ok (Dict.ofList settings)

def base (A : StartupLayers) (defaults : Dict String Value) : Except ConfigurationError Layers := do
  let L : Layers := ⟨defaults, defaults.mapValues (fun _ => .default)⟩
  let yaml ← A.yamlSettings
  let L ← L.apply yaml .yaml
  let environment ← A.environmentSettings
  L.apply environment .environment

end StartupLayers

structure ConfigurationManager (C : Type) where
  values : Dict String Value
  sources : Dict String SettingSource
  persisted : Dict String Value
  version : ℤ
  config : C

namespace ConfigurationManager

variable {C : Type}

def candidate (schema : Schema C) (values : Dict String Value) : Except ConfigurationError C :=
  match (inflate values).bind schema.validate with
  | none => .error .invalidSettings
  | some config => .ok config

def create (schema : Schema C) (A : StartupLayers) (S : AdministrativeStore) :
    Except ConfigurationError (ConfigurationManager C) := do
  let L ← A.base schema.defaults
  let persisted := S.configState.2.mapValues JsonText.loads
  let L ← L.apply persisted .persistedOverride
  let config ← candidate schema L.values
  return ⟨L.values, L.sources, persisted, S.configState.1, config⟩

variable (schema : Schema C) (m : ConfigurationManager C) (S : AdministrativeStore)

def validatePatch (values : Dict String Value) : Except ConfigurationError C :=
  match firstUnknown values m.values with
  | some path => .error (.unknownSetting path)
  | none => candidate schema (m.values.update values)

def update (values : Dict String Value) (expectedVersion : ℤ) :
    Except ConfigurationError C × ConfigurationManager C × AdministrativeStore :=
  match m.validatePatch schema values with
  | .error e => (.error e, m, S)
  | .ok config =>
    let persisted := m.persisted.update values
    let encoded := persisted.mapValues JsonText.mk
    match S.replaceConfig encoded expectedVersion with
    | .error current => (.error (.versionConflict current), m, S)
    | .ok (version, S) =>
      (.ok config,
        { values := m.values.update values
          sources := m.sources.update (values.mapValues (fun _ => .persistedOverride))
          persisted := persisted
          version := version
          config := config }, S)

end ConfigurationManager

end PitbluCore
