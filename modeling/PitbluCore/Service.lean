import PitbluCore.Adapter
import PitbluCore.Storage
import PitbluCore.Telemetry

/-!
The state of the administrative service. A task is kept with the await it is suspended
at and the locals it still needs; it leaves `tasks` when it ends.
-/

namespace PitbluCore

open Library

abbrev TaskId := ℕ

inductive ServiceError
  | resourceNotFound (detail : String)
  | stateConflict (detail : String)
  deriving DecidableEq

inductive ConnectionAction
  | connect
  | disconnect
  | reconnect
  deriving DecidableEq

def ConnectionAction.kind : ConnectionAction → OperationKind
  | .connect => .connect
  | .disconnect => .disconnect
  | .reconnect => .reconnect

def ConnectionAction.desired : ConnectionAction → DesiredState
  | .disconnect => .disconnected
  | _ => .connected

inductive Stage
  | prepare
  | disconnect
  | bluezRelease
  | discovery
  | rediscovery
  | registeredIdentityMissing
  | connectInitialise
  | initialRead
  | recordSnapshot
  deriving DecidableEq

def Stage.value : Stage → String
  | .prepare => "prepare"
  | .disconnect => "disconnect"
  | .bluezRelease => "bluez_release"
  | .discovery => "discovery"
  | .rediscovery => "rediscovery"
  | .registeredIdentityMissing => "registered_identity_missing"
  | .connectInitialise => "connect_initialise"
  | .initialRead => "initial_read"
  | .recordSnapshot => "record_snapshot"

inductive LastError
  | deviceOperationFailed
  | pollingTaskFailed
  | deviceReadFailed
  deriving DecidableEq

def LastError.value : LastError → String
  | .deviceOperationFailed => "device_operation_failed"
  | .pollingTaskFailed => "polling_task_failed"
  | .deviceReadFailed => "device_read_failed"

structure Call where
  operation : OperationId
  device : DeviceId
  action : ConnectionAction
  recovering : Bool
  deriving DecidableEq

inductive Point
  | stoppingRecovery (task : TaskId)
  | stoppingPolling (task : TaskId)
  | lockDisconnect
  | disconnecting
  | releasing
  | lockConnect
  | discovering
  | releasingMissing
  | rediscovering
  | connecting (candidate : DiscoveredDevice)
  | reading (link : Link)
  deriving DecidableEq

def Point.holdsLock : Point → Bool
  | .stoppingRecovery _ | .stoppingPolling _ | .lockDisconnect | .lockConnect => false
  | _ => true

structure PollState where
  failures : ℕ
  lastValid : Time
  stableSince : Time
  lastObserved : Option Time
  deriving DecidableEq

inductive PollPoint
  | starting
  | sleeping (poll : PollState)
  | lock (poll : PollState)
  | reading (poll : PollState) (link : Link)
  deriving DecidableEq

inductive RecoveryPoint
  | starting (immediate : Bool)
  | sleeping
  deriving DecidableEq

inductive ScanPoint
  | starting (operation : OperationId)
  | lock (operation : OperationId)
  | discovering (operation : OperationId)
  deriving DecidableEq

inductive DiscoveryPoint
  | starting
  | sleeping
  | lock
  | discovering
  deriving DecidableEq

/-- The awaits of `delete_device`; no operation reads `waited`, the tasks it has waited for already. -/
inductive DeletePoint
  | stoppingRecovery (task : TaskId)
  | stoppingPolling (waited : List TaskId) (task : TaskId)
  | lock (waited : List TaskId)
  | disconnecting (waited : List TaskId)
  deriving DecidableEq

inductive ClosePoint
  | stoppingDiscovery (task : TaskId)
  | stoppingOperations (tasks : List TaskId)
  | stoppingRecoveries (tasks : List TaskId)
  | stoppingPolling (tasks : List TaskId)
  | stoppingRemaining (tasks : List TaskId)
  | disconnecting
  deriving DecidableEq

/-- What a task runs and where it is suspended. A recovery task is a `procedure` with `recovering` set
while it awaits `_execute_connection`. A poll that raised stays as `pollingFailed` until its completion
callback runs. -/
inductive Frame
  | queued (call : Call)
  | procedure (call : Call) (row : DeviceRow) (point : Point)
  | recovery (device : DeviceId) (point : RecoveryPoint)
  | polling (device : DeviceId) (point : PollPoint)
  | pollingFailed (device : DeviceId)
  | scan (point : ScanPoint)
  | discovery (point : DiscoveryPoint)
  | event (row : OperationRow)
  | registerHeartbeat (device : DeviceId) (desired : DesiredState)
  | deletion (device : DeviceId) (point : DeletePoint)
  | closing (point : ClosePoint)
  deriving DecidableEq

def Frame.scheduled : Frame → Bool
  | .queued _ | .scan _ | .event _ | .registerHeartbeat _ _ => true
  | .procedure call _ _ => !call.recovering
  | _ => false

structure Task where
  frame : Frame
  cancelled : Bool
  deriving DecidableEq

def Task.cancel (task : Task) : Task :=
  match task.frame with
  | .pollingFailed _ => task
  | _ => { task with cancelled := true }

@[simp] theorem Task.cancel_frame (task : Task) : task.cancel.frame = task.frame := by
  unfold Task.cancel
  split <;> rfl

/-- A poll that raised is done, though its callback has not run yet. -/
def Task.done (task : Task) : Bool :=
  match task.frame with
  | .pollingFailed _ => true
  | _ => false

structure ServiceSettings where
  degradedAfter : ℕ
  reconnectAfter : Duration
  stableAfter : Duration
  deriving DecidableEq

/-- What a run did, newest first; no operation of the service reads it. -/
inductive TraceItem
  | registered (device : DeviceId)
  | deleted (device : DeviceId)
  | accepted (device : DeviceId) (action : ConnectionAction)
  | discovered (found : List DiscoveredDevice)
  | connectCalled (device : DeviceId) (candidate : DiscoveredDevice) (current : Bool) (identity : Option Identity)
  | succeeded (device : DeviceId) (action : ConnectionAction)
  | attempted (device : DeviceId) (wanted : Bool)
  | recorded (device : DeviceId) (link : Link) (registered : Bool)
  deriving DecidableEq

structure LastFailure where
  error : Option LastError
  stage : Option Stage
  type : Option String
  detail : Option String
  deriving DecidableEq

/-- `operations` are the row dictionaries in memory, `active` names them by device. -/
structure Service where
  settings : ServiceSettings
  adapter : Adapter
  store : AdministrativeStore
  telemetry : TelemetryState
  candidates : Dict DiscoveryId DiscoveredDevice
  scanResults : Dict OperationId (List DiscoveredDevice)
  connectedDevice : Option DeviceId
  tasks : Dict TaskId Task
  pollingTasks : Dict DeviceId TaskId
  recoveries : Dict DeviceId TaskId
  backoffs : Dict DeviceId BackoffPolicy
  operations : Dict OperationId OperationRow
  active : Dict DeviceId OperationId
  ioLock : Option TaskId
  owner : Option DeviceId
  closing : Bool
  closed : Bool
  discoveryTask : TaskId
  discoveryError : Bool
  last : LastFailure
  nextTask : TaskId
  nextOperation : OperationId
  trace : List TraceItem

namespace Service

variable (s : Service)

def spawn (frame : Frame) : Service :=
  { s with tasks := s.tasks.set s.nextTask ⟨frame, false⟩, nextTask := s.nextTask + 1 }

def suspend (t : TaskId) (frame : Frame) : Service :=
  { s with tasks := s.tasks.modify t (fun task => { task with frame := frame }) }

def endTask (t : TaskId) : Service := { s with tasks := s.tasks.erase t }

def cancel (t : TaskId) : Service := { s with tasks := s.tasks.modify t Task.cancel }

def ended (ts : List TaskId) : Bool := ts.all (fun t => (s.tasks.get? t).all Task.done)

def acquire (t : TaskId) : Service := { s with ioLock := some t }

def release : Service := { s with ioLock := none }

def log (item : TraceItem) : Service := { s with trace := item :: s.trace }

def updateDevice (device : DeviceId) (f : DeviceRow → DeviceRow) : Service :=
  { s with store := s.store.updateDevice device f }

def setObserved (device : DeviceId) (state : ConnectionState) : Service :=
  s.updateDevice device (fun row => { row with observedState := state })

def setDesired (device : DeviceId) (desired : DesiredState) (observed : ConnectionState) : Service :=
  s.updateDevice device (fun row => { row with desiredState := desired, observedState := observed })

def setConnected (device : Option DeviceId) : Service := { s with connectedDevice := device }

def noteFailure (stage : Stage) (e : Failure) : Service :=
  { s with last := ⟨some .deviceOperationFailed, some stage, some e.type, safeFailureDetail e⟩ }

def noteError (e : LastError) : Service := { s with last := { s.last with error := some e } }

def clearFailure : Service := { s with last := ⟨none, none, none, none⟩ }

def disconnectAdapter : Service := { s with adapter := s.adapter.disconnect }

def discover (results : List Advertisement) : Service :=
  { s with candidates := .ofList ((s.adapter.candidates results).map (fun c => (c.discoveryId, c)))
           adapter := s.adapter.discover results
           trace := .discovered (s.adapter.candidates results) :: s.trace }

def logConnect (device : DeviceId) (candidate : DiscoveredDevice) : Service :=
  s.log (.connectCalled device candidate (s.adapter.current candidate)
    ((s.store.device device).bind DeviceRow.identity))

def logAttempt (device : DeviceId) : Service :=
  let wanted := (s.store.device device).any (fun row => row.autoReconnect && row.desiredState = .connected)
  s.log (.attempted device wanted)

def record (device : DeviceId) (snapshot : DeviceSnapshot) (link : Link) (now : Time) : Service :=
  { s with telemetry := s.telemetry.record device snapshot now
           trace := .recorded device link (s.store.device device).isSome :: s.trace }

section Operations

def saveOperation (row : OperationRow) : Service :=
  { s with operations := s.operations.set row.operationId row, store := s.store.saveOperation row }

def newOperation (kind : OperationKind) (device : Option DeviceId) (now : Time) : Service :=
  { s.saveOperation ⟨s.nextOperation, kind, device, .queued, now, now, none⟩ with
    nextOperation := s.nextOperation + 1 }

def markOperation (id : OperationId) (status : OperationStatus) (error : Option ErrorCode) (now : Time) :
    Service :=
  match s.operations.get? id with
  | none => s
  | some row => s.saveOperation { row with status := status, errorCode := error, updatedAt := now }

def markRunning (id : OperationId) (now : Time) : Service := s.markOperation id .running none now

def markInterrupted (id : OperationId) (now : Time) : Service :=
  s.markOperation id .failed (some .interrupted) now

def scheduleEvent (id : OperationId) : Service :=
  match s.operations.get? id with
  | none => s
  | some row => s.spawn (.event row)

def finish (id : OperationId) (failed : Bool) (now : Time) : Service :=
  (if failed then s.markOperation id .failed (some .deviceOperationFailed) now
   else s.markOperation id .succeeded none now).scheduleEvent id

def publishOperation (row : OperationRow) (now : Time) : Service :=
  let data := [("operationId", .int row.operationId), ("kind", .str row.kind.value),
    ("status", .str row.status.value), ("errorCode", row.errorCode.elim .null (fun e => .str e.value))]
  { s with telemetry := { s.telemetry with
      events := s.telemetry.events.publish
        ⟨0, none, .operation, now, 1, s.adapter.source, row.deviceId, none, data⟩ } }

def pendingOperation (device : DeviceId) : Option OperationRow :=
  ((s.active.get? device).bind s.operations.get?).filter (fun row => row.status.pending)

end Operations

section Supervision

def recoveryWanted (device : DeviceId) : Bool :=
  !s.closing && (s.store.device device).any (fun row => row.autoReconnect && row.desiredState = .connected)

def scheduleRecovery (device : DeviceId) (immediate : Bool) : Service :=
  if !s.recoveryWanted device || s.recoveries.contains device then s
  else { s with recoveries := s.recoveries.set device s.nextTask }.spawn (.recovery device (.starting immediate))

def endRecovery (t : TaskId) (device : DeviceId) : Service :=
  { s.endTask t with
    recoveries := if s.recoveries.get? device = some t then s.recoveries.erase device else s.recoveries }

def stopRecovery (device : DeviceId) (task : TaskId) : Service :=
  { s with recoveries := s.recoveries.erase device }.cancel task

def endPolling (t : TaskId) (device : DeviceId) : Service :=
  { s.endTask t with
    pollingTasks := if s.pollingTasks.get? device = some t then s.pollingTasks.erase device else s.pollingTasks }

def stopPolling (device : DeviceId) (task : TaskId) : Service :=
  { s with pollingTasks := s.pollingTasks.erase device }.cancel task

def startPolling (device : DeviceId) : Service :=
  let s := match s.pollingTasks.get? device with
    | some previous => s.stopPolling device previous
    | none => s
  { s with pollingTasks := s.pollingTasks.set device s.nextTask }.spawn (.polling device .starting)

end Supervision

def viewDevice (device : DeviceId) : Service :=
  { s with telemetry := s.telemetry.ensureHeartbeat device s.adapter.source }

def registerHeartbeat (device : DeviceId) (desired : DesiredState) (now : Time) : Service :=
  let T := s.telemetry.registerHeartbeat device s.adapter.source now
  { s with telemetry := if desired = .disconnected then T.heartbeatDisconnected device now else T }

end Service

end PitbluCore
