import PitbluCore.Library.Runs
import PitbluCore.ServiceTasks

namespace PitbluCore

open Library

/-- `str.lower` of a character, exact on those that lower to ASCII. -/
def lower (c : Char) : List Char :=
  if c.val = 0x212A then ['k']                              -- the Kelvin sign
  else if c.val = 0x130 then ['i', Char.ofNat 0x307]        -- the capital I with a dot
  else [c.toLower]

def slugChar (c : Char) : Bool := ('a' ≤ c && c ≤ 'z') || ('0' ≤ c && c ≤ '9')

def slug (name : String) : String :=
  let runs := ((name.toList.flatMap lower).splitOnP (fun c => !slugChar c)).filter (· ≠ [])
  String.ofList (List.intercalate ['-'] runs)

namespace Service

variable (s : Service)

def startScan (now : Time) : Except ServiceError (Service × OperationRow) :=
  if s.closing then .error (.stateConflict "service is stopping")
  else
    match s.store.recentOperations.find? (fun row => row.kind = .scan && row.status.pending) with
    | some row => .ok (s, row)
    | none =>
      let row : OperationRow := ⟨s.nextOperation, .scan, none, .queued, now, now, none⟩
      .ok ((s.newOperation .scan none now).spawn (.scan (.starting s.nextOperation)), row)

def deviceNotFound : ServiceError := .resourceNotFound "device not found"

def operationInProgress : ServiceError := .stateConflict "device operation is in progress"

/-- `suffix` is the random part of the id of a device whose name has no letter and no digit. -/
def register (discoveryId : DiscoveryId) (friendlyName : Option String) (automaticReconnection : Bool)
    (suffix : String) (now : Time) : Except ServiceError (Service × DeviceId) :=
  match s.candidates.get? discoveryId with
  | none => .error (.stateConflict "discovery result is no longer available")
  | some candidate =>
    if candidate.identity.isSome && s.store.devices.values.any (fun row => row.identity = candidate.identity) then
      .error (.stateConflict "device is already registered")
    else
      let base := slug candidate.name
      let device := if base = "" then "igrill-" ++ suffix else base
      if (s.store.device device).isSome then .error (.stateConflict "device is already registered")
      else
        let row : DeviceRow := ⟨device, discoveryId, candidate.name, friendlyName, candidate.model,
          automaticReconnection, .disconnected, .discovered, now, candidate.identity⟩
        let s := { s with store := s.store.saveDevice row, trace := .registered device :: s.trace }
        .ok ((s.viewDevice device).spawn (.registerHeartbeat device .disconnected), device)

structure DevicePatch where
  friendlyName : Option (Option String)
  automaticReconnection : Option Bool
  discoveryId : Option DiscoveryId

def selectIdentity (device : DeviceId) (discoveryId : Option DiscoveryId) :
    Except ServiceError (Option DiscoveredDevice) :=
  match discoveryId with
  | none => .ok none
  | some id =>
    if s.owner = some device then .error (.stateConflict "disconnect before selecting a device identity")
    else
      match s.candidates.get? id with
      | none => .error (.stateConflict "discovery result is no longer available")
      | some candidate =>
        if candidate.identity.isSome && s.store.devices.values.any (fun row =>
            row.deviceId ≠ device && row.identity = candidate.identity) then
          .error (.stateConflict "device identity is already registered")
        else .ok (some candidate)

def patchRow (patch : DevicePatch) (candidate : Option DiscoveredDevice) (row : DeviceRow) : DeviceRow :=
  { row with
    friendlyName := patch.friendlyName.getD row.friendlyName
    autoReconnect := patch.automaticReconnection.getD row.autoReconnect
    identity := candidate.elim row.identity DiscoveredDevice.identity
    discoveryId := candidate.elim row.discoveryId DiscoveredDevice.discoveryId }

def patchDevice (device : DeviceId) (patch : DevicePatch) : Except ServiceError Service :=
  match s.selectIdentity device patch.discoveryId with
  | .error e => .error e
  | .ok candidate =>
    if (s.store.device device).isNone then .error deviceNotFound
    else .ok ((s.updateDevice device (patchRow patch candidate)).viewDevice device)

def deleteDevice (device : DeviceId) (now : Time) : Except ServiceError Unit × Service :=
  if (s.store.device device).isNone then (.error deviceNotFound, s)
  else
    let s := s.viewDevice device
    if (s.pendingOperation device).isSome then (.error operationInProgress, s)
    else
      match s.recoveries.get? device with
      | some task => (.ok (), (s.stopRecovery device task).spawn (.deletion device (.stoppingRecovery task)))
      | none =>
        if s.connectedDevice = some device then
          (.ok (), (s.deletePolling device []).1.spawn (.deletion device (s.deletePolling device []).2))
        else (.ok (), s.removeDevice device now)

def accept (device : DeviceId) (action : ConnectionAction) (now : Time) : Service :=
  let id := s.nextOperation
  let s := { s with owner := if action = ConnectionAction.disconnect then s.owner else some device }
  let s := s.updateDevice device (fun row => { row with desiredState := action.desired })
  let s := s.newOperation action.kind (some device) now
  let s := { s with active := s.active.set device id }.spawn (.queued ⟨id, device, action, false⟩)
  s.log (.accepted device action)

def startConnectionOperation (device : DeviceId) (action : ConnectionAction) (now : Time) :
    Except ServiceError (Service × OperationRow) :=
  if (s.store.device device).isNone then .error deviceNotFound
  else if s.closing then .error (.stateConflict "service is stopping")
  else
    match s.pendingOperation device with
    | some row =>
      if row.kind = action.kind then .ok (s.log (.accepted device action), row) else .error operationInProgress
    | none =>
      if action ≠ .disconnect ∧ s.owner ≠ none ∧ s.owner ≠ some device then
        .error (.stateConflict "adapter is owned by another registered device")
      else .ok (s.accept device action now, ⟨s.nextOperation, action.kind, some device, .queued, now, now, none⟩)

def close : Service :=
  ({ s with closing := true }.cancel s.discoveryTask).spawn (.closing (.stoppingDiscovery s.discoveryTask))

def startDevice (now : Time) (row : DeviceRow) : Service :=
  let s := s.registerHeartbeat row.deviceId row.desiredState now
  let s := s.setObserved row.deviceId .disconnected
  if row.desiredState = .connected && row.autoReconnect && s.owner.isNone then
    { s with owner := some row.deviceId }.scheduleRecovery row.deviceId true
  else s

def startDiscovery (now : Time) : Service :=
  { s with store := s.store.interruptOperations now, discoveryTask := s.nextTask }.spawn (.discovery .starting)

def start (now : Time) : Service :=
  let s := s.startDiscovery now
  s.store.deviceRows.foldl (fun s row => s.startDevice now row) s

def create (settings : ServiceSettings) (store : AdministrativeStore) (telemetry : TelemetryState)
    (nextDiscoveryId : DiscoveryId) (nextOperation : OperationId) (trace : List TraceItem) : Service where
  settings := settings
  adapter := .create nextDiscoveryId
  store := store
  telemetry := telemetry
  candidates := Dict.empty
  scanResults := Dict.empty
  connectedDevice := none
  tasks := Dict.empty
  pollingTasks := Dict.empty
  recoveries := Dict.empty
  backoffs := Dict.empty
  operations := Dict.empty
  active := Dict.empty
  ioLock := none
  owner := none
  closing := false
  closed := false
  discoveryTask := 0
  discoveryError := false
  last := ⟨none, none, none, none⟩
  nextTask := 0
  nextOperation := nextOperation
  trace := trace

def nextSession (T : TelemetryState) : TelemetryState :=
  .create (.create T.events.historySize T.events.subscriberQueueSize (T.events.sessionId + 1)
    T.events.historySize_pos T.events.subscriberQueueSize_pos) T.staleAfter T.heartbeatStaleAfter
    T.staleAfter_pos T.heartbeatStaleAfter_pos

def successor : Service :=
  create s.settings s.store (nextSession s.telemetry) s.adapter.nextDiscoveryId s.nextOperation s.trace

def restart (now : Time) : Service := s.successor.start now

inductive Action
  | startScan (now : Time)
  | register (discoveryId : DiscoveryId) (friendlyName : Option String) (automaticReconnection : Bool)
      (suffix : String) (now : Time)
  | patchDevice (device : DeviceId) (patch : DevicePatch)
  | deleteDevice (device : DeviceId) (now : Time)
  | startConnectionOperation (device : DeviceId) (action : ConnectionAction) (now : Time)
  | viewDevice (device : DeviceId)
  | close
  | restart (now : Time)
  | resume (task : TaskId) (outcome : Outcome) (now clock : Time)
  | linkLost
  | staleDeadline (device : DeviceId) (now : Time)
  | heartbeatDeadline (device : DeviceId) (now : Time)

/-- A rejected request leaves the state as it is, but for the heartbeat that `delete_device` ensures. -/
def step : Action → Option Service
  | .startScan now => some ((s.startScan now).toOption.elim s Prod.fst)
  | .register id friendlyName automatic suffix now =>
    some ((s.register id friendlyName automatic suffix now).toOption.elim s Prod.fst)
  | .patchDevice device patch => some ((s.patchDevice device patch).toOption.getD s)
  | .deleteDevice device now => some (s.deleteDevice device now).2
  | .startConnectionOperation device action now =>
    some ((s.startConnectionOperation device action now).toOption.elim s Prod.fst)
  | .viewDevice device => if (s.store.device device).isSome then some (s.viewDevice device) else some s
  | .close => if s.closing then none else some s.close
  | .restart now => some (s.restart now)
  | .resume t outcome now clock => s.resume t outcome now clock
  | .linkLost => some s.disconnectAdapter
  | .staleDeadline device now =>
    (s.telemetry.staleDeadline device now).map (fun T => { s with telemetry := T })
  | .heartbeatDeadline device now =>
    (s.telemetry.heartbeatDeadline device now).map (fun T => { s with telemetry := T })

def Booted (s : Service) : Prop :=
  ∃ settings store telemetry nextDiscoveryId nextOperation,
    telemetry.Initial ∧ (∀ id ∈ store.operations.keys, id < nextOperation) ∧
    s = create settings store telemetry nextDiscoveryId nextOperation []

def Started (s : Service) : Prop := ∃ boot now, Booted boot ∧ s = boot.start now

section Session

def firstSession : Service := (create ⟨3, 30000000, 60000000⟩ .create .session 0 0 []).start 0

def advertised (suffix address : String) : Advertisement :=
  ⟨some ("iGrill_V202-" ++ suffix), none, [], -60, some address⟩

def go (t : TaskId) : Action := .resume t .resumed 0 0

def bothFound : Outcome := .found [advertised "a" "00:00:00:00:00:0A", advertised "b" "00:00:00:00:00:0B"]

def registerBoth : List Action :=
  [go 0, go 0, go 0, .resume 0 bothFound 0 0, .register 0 none true "" 0, .register 1 none true "" 0, go 1, go 2]

theorem firstSession_started : Started firstSession := by
  refine ⟨_, 0, ⟨⟨3, 30000000, 60000000⟩, .create, .session, 0, 0, ?_, ?_, rfl⟩, rfl⟩
  · exact ⟨_, _, _, _, _, _, _, _, _, rfl⟩
  · intro id hid
    cases hid

end Session

end Service

end PitbluCore
