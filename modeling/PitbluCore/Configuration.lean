import Mathlib.Data.Rat.Lemmas
import PitbluCore.Storage

/-!
Layered configuration. `yaml.safe_load` is a parameter; a scalar it reads that is no
JSON value stands as a value that no field accepts, and a key that is no string as the
text its path shows.
-/

namespace PitbluCore

open Library

def Value.truthy : Value → Bool
  | null => false
  | bool b => b
  | int i => i ≠ 0
  | float q => q ≠ 0
  | str s => s ≠ ""
  | list l => !l.isEmpty
  | map m => !m.isEmpty

def joinPath (pfx key : String) : String := if pfx = "" then key else pfx ++ "." ++ key

mutual

def flattenItem (path : String) (flattened : Dict String Value) : Value → Dict String Value
  | .map entries => flattened.update (flattenEntries path Dict.empty entries)
  | item => flattened.set path item

def flattenEntries (pfx : String) (flattened : Dict String Value) : List (String × Value) → Dict String Value
  | [] => flattened
  | e :: entries => flattenEntries pfx (flattenItem (joinPath pfx e.1) flattened e.2) entries

end

def flatten (value : List (String × Value)) : Dict String Value := flattenEntries "" Dict.empty value

def splitDots : List Char → List Char × List (List Char)
  | [] => ([], [])
  | c :: cs => if c = '.' then ([], (splitDots cs).1 :: (splitDots cs).2) else (c :: (splitDots cs).1, (splitDots cs).2)

def segments (path : String) : String × List String :=
  let parts := splitDots path.toList
  (String.ofList parts.1, parts.2.map String.ofList)

def assign (target : List (String × Value)) (part : String) (value : Value) :
    List String → Option (List (String × Value))
  | [] => some (insertEntry part value target)
  | next :: rest =>
    match target.lookup part with
    | none => (assign [] next value rest).map (fun below => insertEntry part (.map below) target)
    | some (.map below) => (assign below next value rest).map (fun below => insertEntry part (.map below) target)
    | some _ => none

def inflate (values : Dict String Value) : Option (List (String × Value)) :=
  values.entries.foldlM (fun result e => assign result (segments e.1).1 e.2 (segments e.1).2) []

/-- The lax conversions of pydantic. A value of the very type of its field is kept. -/
structure Pydantic where
  int : Value → Option ℤ
  float : Value → Option ℚ
  bool : Value → Option Bool
  str : Value → Option String
  int_int : ∀ i, int (.int i) = some i
  float_int : ∀ i : ℤ, float (.int i) = some (i : ℚ)
  float_float : ∀ q, float (.float q) = some q
  bool_bool : ∀ b, bool (.bool b) = some b
  str_str : ∀ s, str (.str s) = some s

inductive Bind
  | loopback
  | all
  deriving DecidableEq

def Bind.value : Bind → String
  | .loopback => "127.0.0.1"
  | .all => "0.0.0.0"

inductive AuthMode
  | disabled
  | token
  deriving DecidableEq

def AuthMode.value : AuthMode → String
  | .disabled => "disabled"
  | .token => "token"

abbrev IntRange (lo hi : ℤ) := {i : ℤ // lo ≤ i ∧ i ≤ hi}

abbrev Seconds (hi : ℚ) := {q : ℚ // 0 < q ∧ q ≤ hi}

abbrev TextRange (lo hi : ℕ) (forbidden : List Char) :=
  {s : String // (lo ≤ s.length ∧ s.length ≤ hi) ∧ s.toList.all (fun c => c ∉ forbidden)}

structure ServerConfig where
  bind : Bind
  port : IntRange 1 65535
  corsOrigins : List String

structure AuthConfig where
  mode : AuthMode

structure BluetoothConfig where
  scanDuration : Seconds 60
  missingScanInterval : Seconds 3600
  connectedScanInterval : Seconds 3600
  connectTimeout : Seconds 120
  initialiseTimeout : Seconds 120
  readTimeout : Seconds 60

structure PollingConfig where
  probeInterval : Seconds 300
  batteryInterval : Seconds 3600
  staleAfter : Seconds 3600
  thermometerHeartbeatStaleAfter : Seconds 3600
  degradedAfterFailures : IntRange 1 100
  forcedReconnectAfter : Seconds 3600
  availabilityHeartbeat : Seconds 3600
  stableBackoffReset : Seconds 3600

structure MqttConfig where
  enabled : Bool
  host : TextRange 1 253 []
  port : IntRange 1 65535
  tls : Bool
  username : Option (TextRange 0 128 [])
  baseTopic : TextRange 1 128 ['+', '#', '\x00']

structure SimulationConfig where
  enabled : Bool
  probeCount : IntRange 1 4

structure SecurityConfig where
  authRequestsPerMinute : IntRange 10 3600
  mutationsPerMinute : IntRange 1 300
  maximumBodyBytes : IntRange 8192 65536
  maximumSseClients : IntRange 1 32

/-- A validated configuration; `mqtt.qos` is always 1. -/
structure AppConfig where
  server : ServerConfig
  auth : AuthConfig
  bluetooth : BluetoothConfig
  polling : PollingConfig
  mqtt : MqttConfig
  simulation : SimulationConfig
  security : SecurityConfig
  secureExposure : server.bind = .loopback ∨ auth.mode = .token

namespace Pydantic

def numeric : Pydantic where
  int
    | .int i => some i
    | .bool b => some b.toInt
    | .float q => if q.den = 1 then some q.num else none
    | _ => none
  float
    | .int i => some i
    | .float q => some q
    | .bool b => some b.toInt
    | _ => none
  bool
    | .bool b => some b
    | .int i => if i = 0 then some false else if i = 1 then some true else none
    | _ => none
  str
    | .str s => some s
    | _ => none
  int_int := fun _ => rfl
  float_int := fun _ => rfl
  float_float := fun _ => rfl
  bool_bool := fun _ => rfl
  str_str := fun _ => rfl

variable (P : Pydantic)

def intRange (lo hi : ℤ) (v : Value) : Option (IntRange lo hi) := do
  let i ← P.int v
  if h : lo ≤ i ∧ i ≤ hi then some ⟨i, h⟩ else none

def seconds (hi : ℚ) (v : Value) : Option (Seconds hi) := do
  let q ← P.float v
  if h : 0 < q ∧ q ≤ hi then some ⟨q, h⟩ else none

def text (lo hi : ℕ) (forbidden : List Char) (v : Value) : Option (TextRange lo hi forbidden) := do
  let s ← P.str v
  if h : (lo ≤ s.length ∧ s.length ≤ hi) ∧ s.toList.all (fun c => c ∉ forbidden) then some ⟨s, h⟩ else none

def optional {α : Type} (validate : Value → Option α) : Value → Option (Option α)
  | .null => some none
  | v => (validate v).map some

def strList : Value → Option (List String)
  | .list items => items.mapM P.str
  | _ => none

def literal {α : Type} (choices : List (String × α)) : Value → Option α
  | .str s => choices.lookup s
  | _ => none

end Pydantic

def field {α : Type} (entries : List (String × Value)) (name : String) (dflt : α) (validate : Value → Option α) :
    Option α :=
  match entries.lookup name with
  | none => some dflt
  | some v => validate v

def sectionOf (entries : List (String × Value)) (name : String) (names : List String) :
    Option (List (String × Value)) :=
  match entries.lookup name with
  | none => some []
  | some (.map below) => if below.all (fun e => e.1 ∈ names) then some below else none
  | some _ => none

section ModelValidate

variable (P : Pydantic) (entries : List (String × Value))

def ServerConfig.modelValidate : Option ServerConfig := do
  let s ← sectionOf entries "server" ["bind", "port", "cors_origins"]
  let bind ← field s "bind" .loopback (Pydantic.literal [("127.0.0.1", .loopback), ("0.0.0.0", .all)])
  let port ← field s "port" ⟨8080, by decide⟩ (P.intRange 1 65535)
  let corsOrigins ← field s "cors_origins" [] P.strList
  return ⟨bind, port, corsOrigins⟩

def AuthConfig.modelValidate : Option AuthConfig := do
  let s ← sectionOf entries "auth" ["mode"]
  let mode ← field s "mode" .disabled (Pydantic.literal [("disabled", .disabled), ("token", .token)])
  return ⟨mode⟩

def BluetoothConfig.modelValidate : Option BluetoothConfig := do
  let s ← sectionOf entries "bluetooth" ["scan_duration", "missing_scan_interval", "connected_scan_interval",
    "connect_timeout", "initialise_timeout", "read_timeout"]
  let scanDuration ← field s "scan_duration" ⟨5, by decide +kernel⟩ (P.seconds 60)
  let missingScanInterval ← field s "missing_scan_interval" ⟨15, by decide +kernel⟩ (P.seconds 3600)
  let connectedScanInterval ← field s "connected_scan_interval" ⟨60, by decide +kernel⟩ (P.seconds 3600)
  let connectTimeout ← field s "connect_timeout" ⟨20, by decide +kernel⟩ (P.seconds 120)
  let initialiseTimeout ← field s "initialise_timeout" ⟨15, by decide +kernel⟩ (P.seconds 120)
  let readTimeout ← field s "read_timeout" ⟨5, by decide +kernel⟩ (P.seconds 60)
  return ⟨scanDuration, missingScanInterval, connectedScanInterval, connectTimeout, initialiseTimeout, readTimeout⟩

def PollingConfig.modelValidate : Option PollingConfig := do
  let s ← sectionOf entries "polling" ["probe_interval", "battery_interval", "stale_after",
    "thermometer_heartbeat_stale_after", "degraded_after_failures", "forced_reconnect_after",
    "availability_heartbeat", "stable_backoff_reset"]
  let probeInterval ← field s "probe_interval" ⟨5, by decide +kernel⟩ (P.seconds 300)
  let batteryInterval ← field s "battery_interval" ⟨300, by decide +kernel⟩ (P.seconds 3600)
  let staleAfter ← field s "stale_after" ⟨15, by decide +kernel⟩ (P.seconds 3600)
  let heartbeatStaleAfter ← field s "thermometer_heartbeat_stale_after" ⟨15, by decide +kernel⟩ (P.seconds 3600)
  let degradedAfterFailures ← field s "degraded_after_failures" ⟨3, by decide⟩ (P.intRange 1 100)
  let forcedReconnectAfter ← field s "forced_reconnect_after" ⟨30, by decide +kernel⟩ (P.seconds 3600)
  let availabilityHeartbeat ← field s "availability_heartbeat" ⟨60, by decide +kernel⟩ (P.seconds 3600)
  let stableBackoffReset ← field s "stable_backoff_reset" ⟨60, by decide +kernel⟩ (P.seconds 3600)
  return ⟨probeInterval, batteryInterval, staleAfter, heartbeatStaleAfter, degradedAfterFailures,
    forcedReconnectAfter, availabilityHeartbeat, stableBackoffReset⟩

/-- `Literal[1]`, which also takes what is equal to 1. -/
def literalOne : Value → Option Unit
  | .int i => if i = 1 then some () else none
  | .bool b => if b then some () else none
  | .float q => if q = 1 then some () else none
  | _ => none

def MqttConfig.modelValidate : Option MqttConfig := do
  let s ← sectionOf entries "mqtt" ["enabled", "host", "port", "tls", "username", "base_topic", "qos"]
  let enabled ← field s "enabled" false P.bool
  let host ← field s "host" ⟨"127.0.0.1", by decide⟩ (P.text 1 253 [])
  let port ← field s "port" ⟨1883, by decide⟩ (P.intRange 1 65535)
  let tls ← field s "tls" false P.bool
  let username ← field s "username" none (Pydantic.optional (P.text 0 128 []))
  let baseTopic ← field s "base_topic" ⟨"pitblu", by decide⟩ (P.text 1 128 ['+', '#', '\x00'])
  let _ ← field s "qos" () literalOne
  return ⟨enabled, host, port, tls, username, baseTopic⟩

def SimulationConfig.modelValidate : Option SimulationConfig := do
  let s ← sectionOf entries "simulation" ["enabled", "probe_count"]
  let enabled ← field s "enabled" false P.bool
  let probeCount ← field s "probe_count" ⟨4, by decide⟩ (P.intRange 1 4)
  return ⟨enabled, probeCount⟩

def SecurityConfig.modelValidate : Option SecurityConfig := do
  let s ← sectionOf entries "security" ["auth_requests_per_minute", "mutations_per_minute", "maximum_body_bytes",
    "maximum_sse_clients"]
  let authRequestsPerMinute ← field s "auth_requests_per_minute" ⟨300, by decide⟩ (P.intRange 10 3600)
  let mutationsPerMinute ← field s "mutations_per_minute" ⟨30, by decide⟩ (P.intRange 1 300)
  let maximumBodyBytes ← field s "maximum_body_bytes" ⟨16384, by decide⟩ (P.intRange 8192 65536)
  let maximumSseClients ← field s "maximum_sse_clients" ⟨8, by decide⟩ (P.intRange 1 32)
  return ⟨authRequestsPerMinute, mutationsPerMinute, maximumBodyBytes, maximumSseClients⟩

def AppConfig.modelValidate : Option AppConfig := do
  let names := ["server", "auth", "bluetooth", "polling", "mqtt", "simulation", "security"]
  if entries.all (fun e => e.1 ∈ names) then
    let server ← ServerConfig.modelValidate P entries
    let auth ← AuthConfig.modelValidate entries
    let bluetooth ← BluetoothConfig.modelValidate P entries
    let polling ← PollingConfig.modelValidate P entries
    let mqtt ← MqttConfig.modelValidate P entries
    let simulation ← SimulationConfig.modelValidate P entries
    let security ← SecurityConfig.modelValidate P entries
    if h : server.bind = .loopback ∨ auth.mode = .token then
      some ⟨server, auth, bluetooth, polling, mqtt, simulation, security, h⟩
    else none
  else none

end ModelValidate

end PitbluCore
