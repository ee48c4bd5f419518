import PitbluCore.Library.Dict
import PitbluCore.Library.Runs
import PitbluCore.Protocol

/-!
The calls of the V202 adapter from one await to the next: the handshake of `connect`, the
reads of `read_snapshot`, links that are lost and callbacks that come late.
-/

namespace PitbluCore

open Library

def appChallengeUuid : Characteristic := "64ac0002-4a4b-4b58-9f37-94d3c52ffdf7"
def deviceChallengeUuid : Characteristic := "64ac0003-4a4b-4b58-9f37-94d3c52ffdf7"
def deviceResponseUuid : Characteristic := "64ac0004-4a4b-4b58-9f37-94d3c52ffdf7"

def appChallenge : List UInt8 := .replicate 16 0

inductive GattRequest
  | read (characteristic : Characteristic)
  | write (characteristic : Characteristic) (payload : List UInt8)
  deriving DecidableEq

inductive GattEvent
  | asked (request : GattRequest)
  | answered (request : GattRequest) (value : List UInt8)
  deriving DecidableEq

/-- `events` are in the order they happened; `released` tells whether `disconnect` was called. -/
structure BleakClient where
  native : DiscoveryId
  isConnected : Bool
  released : Bool
  events : List GattEvent

def BleakClient.note (c : BleakClient) (event : GattEvent) : BleakClient := { c with events := c.events ++ [event] }

/-- The awaits of `connect`; `closing` is in its `except` block, `none` where the call was cancelled. -/
inductive ConnectPoint
  | opening
  | writingAppChallenge
  | readingDeviceChallenge
  | writingDeviceResponse (challenge : List UInt8)
  | closing (e : Option Failure)

inductive AdapterCall
  | connecting (client : ℕ) (point : ConnectPoint)
  | disconnecting
  | reading (client : ℕ) (characteristic : Characteristic) (rest : List Characteristic)

inductive Awaited
  | opened (services : List String)
  | returned (value : List UInt8)
  | timedOut
  | raised (e : Failure)
  | cancelled

inductive CallOutcome
  | connected (client : ℕ)
  | alreadyConnected
  | connectFailed (client : ℕ) (e : Option Failure)
  | refused (e : Failure)
  | returned
  | cancelled

structure V202Session where
  nativeById : List DiscoveryId
  nextDiscoveryId : DiscoveryId
  client : Option ℕ
  clients : Dict ℕ BleakClient
  nextClient : ℕ
  calls : Dict ℕ AdapterCall
  outcomes : Dict ℕ CallOutcome
  nextCall : ℕ

inductive SessionAction
  | discover (found : ℕ)
  | connect (device : DiscoveredDevice)
  | disconnect
  | readSnapshot (battery : Bool)
  | resume (call : ℕ) (o : Awaited)
  | linkUp (call : ℕ)
  | linkLost (client : ℕ)

def writeAppChallenge : GattRequest := .write appChallengeUuid appChallenge
def readDeviceChallenge : GattRequest := .read deviceChallengeUuid
def writeDeviceResponse (challenge : List UInt8) : GattRequest := .write deviceResponseUuid challenge

def invalidChallenge : Failure := ⟨"AdapterError", "device challenge has an invalid length"⟩
def serviceMissing : Failure := ⟨"UnsupportedDeviceError", "device does not expose the V202 service"⟩

def ConnectPoint.operation : ConnectPoint → String
  | .opening => "BLE connection and GATT service resolution"
  | .writingAppChallenge => "application challenge write"
  | .readingDeviceChallenge => "device challenge read"
  | .writingDeviceResponse _ => "device response write"
  | .closing _ => ""

def timeout (operation : String) : Failure := ⟨"AdapterError", operation ++ " timed out"⟩

namespace V202Session

def create (nextDiscoveryId : DiscoveryId) : V202Session where
  nativeById := []
  nextDiscoveryId := nextDiscoveryId
  client := none
  clients := Dict.empty
  nextClient := 0
  calls := Dict.empty
  outcomes := Dict.empty
  nextCall := 0

variable (a : V202Session)

def isConnected : Bool := (a.client.bind a.clients.get?).any BleakClient.isConnected

def await (j : ℕ) (call : AdapterCall) : V202Session := { a with calls := a.calls.set j call }

def finish (j : ℕ) (outcome : CallOutcome) : V202Session :=
  { a with calls := a.calls.erase j, outcomes := a.outcomes.set j outcome }

def immediate (outcome : CallOutcome) : V202Session :=
  { a with outcomes := a.outcomes.set a.nextCall outcome, nextCall := a.nextCall + 1 }

def begin (call : AdapterCall) : V202Session :=
  { a.await a.nextCall call with nextCall := a.nextCall + 1 }

def note (n : ℕ) (event : GattEvent) : V202Session :=
  { a with clients := a.clients.modify n (fun c => c.note event) }

def release (n : ℕ) : V202Session :=
  { a with clients := a.clients.modify n (fun c => { c with released := true }) }

def discover (found : ℕ) : V202Session :=
  { a with nativeById := List.range' a.nextDiscoveryId found, nextDiscoveryId := a.nextDiscoveryId + found }

def connectFails (j n : ℕ) (e : Option Failure) : V202Session :=
  if (a.clients.get? n).any BleakClient.isConnected then (a.release n).await j (.connecting n (.closing e))
  else a.finish j (.connectFailed n e)

def connect (device : DiscoveredDevice) : V202Session :=
  if a.isConnected then a.immediate .alreadyConnected
  else if a.nativeById.contains device.discoveryId && device.model = "igrill-v202" then
    { a.begin (.connecting a.nextClient .opening) with
      clients := a.clients.set a.nextClient ⟨device.discoveryId, false, false, []⟩
      nextClient := a.nextClient + 1 }
  else a.immediate (.refused Adapter.unsupportedDevice)

def opened (j n : ℕ) (services : List String) : V202Session :=
  if (services.map String.toLower).contains Adapter.temperatureServiceUuid then
    (a.note n (.asked writeAppChallenge)).await j (.connecting n .writingAppChallenge)
  else a.connectFails j n (some serviceMissing)

def challenged (j n : ℕ) (challenge : List UInt8) : V202Session :=
  let a := a.note n (.answered readDeviceChallenge challenge)
  if challenge.length = 16 then
    (a.note n (.asked (writeDeviceResponse challenge))).await j (.connecting n (.writingDeviceResponse challenge))
  else a.connectFails j n (some invalidChallenge)

def adopt (j n : ℕ) : V202Session := { a.finish j (.connected n) with client := some n }

def resumeConnect (j n : ℕ) (point : ConnectPoint) (o : Awaited) : Option V202Session :=
  match point, o with
  | .closing _, .opened _ => none
  | .closing _, .cancelled => some (a.finish j (.connectFailed n none))
  -- whatever else becomes of the disconnect, the first failure is raised again
  | .closing e, _ => some (a.finish j (.connectFailed n e))
  | .opening, .opened services => some (a.opened j n services)
  | .writingAppChallenge, .returned _ =>
    some (((a.note n (.answered writeAppChallenge [])).note n (.asked readDeviceChallenge)).await j
      (.connecting n .readingDeviceChallenge))
  | .readingDeviceChallenge, .returned challenge => some (a.challenged j n challenge)
  | .writingDeviceResponse challenge, .returned _ =>
    some ((a.note n (.answered (writeDeviceResponse challenge) [])).adopt j n)
  | point, .timedOut => some (a.connectFails j n (some (timeout point.operation)))
  | _, .raised e => some (a.connectFails j n (some e))
  | _, .cancelled => some (a.connectFails j n none)
  | _, _ => none

def disconnect : V202Session :=
  match a.client with
  | none => a.immediate .returned
  | some n =>
    let a := { a with client := none }
    if (a.clients.get? n).any BleakClient.isConnected then (a.release n).begin .disconnecting
    else a.immediate .returned

def resumeDisconnect (j : ℕ) : Awaited → Option V202Session
  | .opened _ => none
  | .cancelled => some (a.finish j .cancelled)
  | _ => some (a.finish j .returned)

def characteristics (battery : Bool) : List Characteristic :=
  if battery then batteryLevelUuid :: probeTemperatureUuids else probeTemperatureUuids

def readNext (j n : ℕ) : List Characteristic → V202Session
  | [] => a.finish j .returned
  | characteristic :: rest =>
    (a.note n (.asked (.read characteristic))).await j (.reading n characteristic rest)

def readSnapshot (battery : Bool) : V202Session :=
  match a.client with
  | none => a.immediate (.refused Adapter.notConnected)
  | some n =>
    if (a.clients.get? n).any BleakClient.isConnected then
      { a with nextCall := a.nextCall + 1 }.readNext a.nextCall n (characteristics battery)
    else a.immediate (.refused Adapter.notConnected)

def resumeRead (j n : ℕ) (characteristic : Characteristic) (rest : List Characteristic) : Awaited → Option V202Session
  | .opened _ => none
  | .returned value => some ((a.note n (.answered (.read characteristic) value)).readNext j n rest)
  | .timedOut | .raised _ => some (a.readNext j n rest)
  | .cancelled => some (a.finish j .cancelled)

def resume (j : ℕ) (o : Awaited) : Option V202Session :=
  (a.calls.get? j).bind fun call =>
    match call with
    | .connecting n point => a.resumeConnect j n point o
    | .disconnecting => a.resumeDisconnect j o
    | .reading n characteristic rest => a.resumeRead j n characteristic rest o

def linkUp (j : ℕ) : Option V202Session :=
  (a.calls.get? j).bind fun call =>
    match call with
    | .connecting n .opening =>
      some { a with clients := a.clients.modify n (fun c => { c with isConnected := true }) }
    | _ => none

/-- `_on_disconnect` does not look at which client it is for. -/
def linkLost (n : ℕ) : Option V202Session :=
  (a.clients.get? n).bind fun c =>
    if c.isConnected then
      some { a with
        clients := a.clients.modify n (fun c => { c with isConnected := false })
        client := none }
    else none

def step : SessionAction → Option V202Session
  | .discover found => some (a.discover found)
  | .connect device => some (a.connect device)
  | .disconnect => some a.disconnect
  | .readSnapshot battery => some (a.readSnapshot battery)
  | .resume j o => a.resume j o
  | .linkUp j => a.linkUp j
  | .linkLost n => a.linkLost n

end V202Session

end PitbluCore
