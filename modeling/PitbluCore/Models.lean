import Mathlib.Data.Rat.Defs
import Mathlib.Data.List.Nodup

/-!
The adapter models. Times are aware UTC instants in microseconds, so the checks
against naive datetimes hold by construction; `uuid4` identifiers are numbers
drawn from a counter.
-/

namespace PitbluCore

abbrev Time := ℤ
abbrev Duration := ℤ
abbrev DeviceId := String
abbrev DiscoveryId := ℕ
abbrev OperationId := ℕ
abbrev Identity := String

inductive TelemetrySource
  | physical
  | simulated
  deriving DecidableEq

def TelemetrySource.value : TelemetrySource → String
  | .physical => "physical"
  | .simulated => "simulated"

structure DiscoveredDevice where
  discoveryId : DiscoveryId
  name : String
  model : String
  rssi : Option ℤ
  identity : Option Identity
  deriving DecidableEq

structure ProbeReading where
  number : ℕ
  available : Bool
  present : Bool
  temperatureC : Option ℚ
  observedAt : Time
  sequence : ℕ
  source : TelemetrySource
  errorCode : Option String
  number_range : 1 ≤ number ∧ number ≤ 4
  sequence_pos : 1 ≤ sequence
  temperature_present : temperatureC.isSome → available ∧ present
  deriving DecidableEq

structure DeviceSnapshot where
  model : String
  probes : List ProbeReading
  batteryPercent : Option ℕ
  batteryAvailable : Bool
  observedAt : Time
  sequence : ℕ
  source : TelemetrySource
  batteryObservedAt : Option Time
  successfulCommunicationAt : Option Time
  probe_count : 1 ≤ probes.length ∧ probes.length ≤ 4
  probe_numbers : (probes.map ProbeReading.number).Nodup
  sequence_pos : 1 ≤ sequence
  battery_range : ∀ p ∈ batteryPercent, p ≤ 100
  battery_available : batteryPercent.isSome → batteryAvailable
  deriving DecidableEq

namespace DeviceSnapshot

def batteryTime (s : DeviceSnapshot) : Time := s.batteryObservedAt.getD s.observedAt

def anyAvailable (s : DeviceSnapshot) : Bool := s.probes.any ProbeReading.available

end DeviceSnapshot

inductive Value
  | null
  | bool (b : Bool)
  | int (i : ℤ)
  | float (q : ℚ)
  | str (s : String)
  | list (items : List Value)
  | map (entries : List (String × Value))

/-- A text written by `json.dumps`, kept as the value that `json.loads` reads back from it. -/
structure JsonText where
  loads : Value

end PitbluCore
