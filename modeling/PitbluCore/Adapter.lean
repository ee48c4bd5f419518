import PitbluCore.Models

/-!
The Bluetooth adapter between two awaits of the service. What the radio does is an
input: the advertisements a scan sees, whether a call fails, when a link is lost.
-/

namespace PitbluCore

structure Failure where
  type : String
  detail : String
  deriving DecidableEq

def safeAdapterFailures : List String :=
  ["BLE scan timed out",
   "BLE connection and GATT service resolution timed out",
   "application challenge write timed out",
   "device challenge read timed out",
   "device response write timed out",
   "device challenge has an invalid length",
   "registered-device BlueZ command failed",
   "registered-device BlueZ connection could not be released",
   "registered-device BlueZ recovery unavailable"]

def safeFailureDetail (e : Failure) : Option String :=
  if e.type = "AdapterError" ∧ e.detail ∈ safeAdapterFailures then some e.detail else none

structure Advertisement where
  localName : Option String
  nativeName : Option String
  serviceUuids : List String
  rssi : ℤ
  address : Option Identity

structure Link where
  device : DeviceId
  candidate : DiscoveredDevice
  deriving DecidableEq

/-- `nativeById` holds the ids the last completed scan issued; `uuid4` ids come from a counter. -/
structure Adapter where
  namePrefix : String
  source : TelemetrySource
  nativeById : List DiscoveryId
  nextDiscoveryId : DiscoveryId
  client : Option Link

namespace Adapter

def create (nextDiscoveryId : DiscoveryId) : Adapter where
  namePrefix := "iGrill_V202-"
  source := .physical
  nativeById := []
  nextDiscoveryId := nextDiscoveryId
  client := none

def isConnected (a : Adapter) : Bool := a.client.isSome

def temperatureServiceUuid : String := "ada7590f-2e6d-469e-8f7b-1822b386a5e9"

def truthy (a b : Option String) : String :=
  ((a.filter (· ≠ "")).or (b.filter (· ≠ ""))).getD ""

def supported (a : Adapter) (ad : Advertisement) : Bool :=
  a.namePrefix.toList.isPrefixOf (truthy ad.localName ad.nativeName).toList ||
    (ad.serviceUuids.map String.toLower).contains temperatureServiceUuid

def candidateOf (id : DiscoveryId) (ad : Advertisement) : DiscoveredDevice where
  discoveryId := id
  name := truthy (some (truthy ad.localName ad.nativeName)) (some "Weber iGrill V202")
  model := "igrill-v202"
  rssi := ad.rssi
  identity := ad.address

def candidates (a : Adapter) (results : List Advertisement) : List DiscoveredDevice :=
  ((results.filter a.supported).zipIdx a.nextDiscoveryId).map (fun r => candidateOf r.2 r.1)

def discover (a : Adapter) (results : List Advertisement) : Adapter :=
  let found := a.candidates results
  { a with nativeById := found.map DiscoveredDevice.discoveryId
           nextDiscoveryId := a.nextDiscoveryId + found.length }

def current (a : Adapter) (device : DiscoveredDevice) : Bool :=
  a.nativeById.contains device.discoveryId && device.model = "igrill-v202"

def unsupportedDevice : Failure := ⟨"UnsupportedDeviceError", "device is not a current supported discovery result"⟩

def notConnected : Failure := ⟨"AdapterDisconnectedError", "V202 is not connected"⟩

def connect (a : Adapter) (link : Link) : Adapter := { a with client := some link }

def disconnect (a : Adapter) : Adapter := { a with client := none }

theorem candidates_ids (a : Adapter) (results : List Advertisement) :
    (a.candidates results).map DiscoveredDevice.discoveryId =
      List.range' a.nextDiscoveryId (results.filter a.supported).length := by
  rw [candidates, List.map_map, ← List.zipIdx_map_snd]
  rfl

theorem candidate_id {a : Adapter} {results : List Advertisement} {c : DiscoveredDevice}
    (h : c ∈ a.candidates results) :
    a.nextDiscoveryId ≤ c.discoveryId ∧ c.discoveryId < (a.discover results).nextDiscoveryId ∧
      (a.discover results).current c = true := by
  have hmem : c.discoveryId ∈ (a.candidates results).map DiscoveredDevice.discoveryId := List.mem_map_of_mem h
  have hr := hmem
  rw [candidates_ids, List.mem_range'_1] at hr
  have hlen : (a.candidates results).length = (results.filter a.supported).length := by simp [candidates]
  obtain ⟨r, -, rfl⟩ := List.mem_map.mp h
  refine ⟨hr.1, by simpa [discover, hlen] using hr.2, ?_⟩
  rw [current, Bool.and_eq_true]
  exact ⟨List.contains_iff_mem.mpr hmem, rfl⟩

theorem candidates_nodup (a : Adapter) (results : List Advertisement) :
    ((a.candidates results).map DiscoveredDevice.discoveryId).Nodup := by
  rw [candidates_ids]
  exact List.nodup_range'

@[simp] theorem discover_client (a : Adapter) (results : List Advertisement) :
    (a.discover results).client = a.client := rfl

@[simp] theorem connect_client (a : Adapter) (link : Link) : (a.connect link).client = some link := rfl

@[simp] theorem disconnect_client (a : Adapter) : a.disconnect.client = none := rfl

end Adapter

end PitbluCore
