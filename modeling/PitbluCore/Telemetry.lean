import PitbluCore.Connection
import PitbluCore.Events

/-!
Current telemetry state. No operation of the source suspends between its first
statement and its return, so each is one function of the state; `now` is its
reading of the wall clock.
-/

namespace PitbluCore

open Library

structure CurrentSnapshot where
  snapshot : DeviceSnapshot
  stale : Bool
  deriving DecidableEq

inductive HeartbeatStatus
  | unknown
  | healthy
  | stale
  | disconnected
  deriving DecidableEq

def HeartbeatStatus.value : HeartbeatStatus → String
  | .unknown => "unknown"
  | .healthy => "healthy"
  | .stale => "stale"
  | .disconnected => "disconnected"

structure HeartbeatState where
  adapterSource : TelemetrySource
  status : HeartbeatStatus
  lastSuccessfulCommunicationAt : Option Time
  successfulSource : Option TelemetrySource
  sequence : ℕ
  deriving DecidableEq

def HeartbeatState.create (source : TelemetrySource) : HeartbeatState := ⟨source, .unknown, none, none, 0⟩

/-- A deadline task of one of the two tables: what it was armed for, and whether it has run. A cancelled
task leaves its table in the same step and never runs. -/
structure Timer (α : Type) where
  armedFor : α
  done : Bool
  deriving DecidableEq

structure TelemetryState where
  events : EventBus
  staleAfter : Duration
  heartbeatStaleAfter : Duration
  current : Dict DeviceId CurrentSnapshot
  staleTasks : Dict DeviceId (Timer DeviceSnapshot)
  heartbeats : Dict DeviceId HeartbeatState
  heartbeatStaleTasks : Dict DeviceId (Timer Time)
  eventSequences : Dict (DeviceId × EventType × Option ℕ) ℕ
  staleAfter_pos : 0 < staleAfter
  heartbeatStaleAfter_pos : 0 < heartbeatStaleAfter

namespace TelemetryState

def create (events : EventBus) (staleAfter heartbeatStaleAfter : Duration) (h : 0 < staleAfter)
    (h' : 0 < heartbeatStaleAfter) : TelemetryState where
  events := events
  staleAfter := staleAfter
  heartbeatStaleAfter := heartbeatStaleAfter
  current := Dict.empty
  staleTasks := Dict.empty
  heartbeats := Dict.empty
  heartbeatStaleTasks := Dict.empty
  eventSequences := Dict.empty
  staleAfter_pos := h
  heartbeatStaleAfter_pos := h'

def sequence (T : TelemetryState) (key : DeviceId × EventType × Option ℕ) (observedSequence : ℕ) : ℕ :=
  max observedSequence ((T.eventSequences.get? key).getD 0 + 1)

def setCurrent (T : TelemetryState) (deviceId : DeviceId) (c : CurrentSnapshot) : TelemetryState :=
  { T with current := T.current.set deviceId c }

def armStaleTask (T : TelemetryState) (deviceId : DeviceId) (snapshot : DeviceSnapshot) : TelemetryState :=
  { T with staleTasks := (T.staleTasks.erase deviceId).set deviceId ⟨snapshot, false⟩ }

def cancelHeartbeatStaleTask (T : TelemetryState) (deviceId : DeviceId) : TelemetryState :=
  { T with heartbeatStaleTasks := T.heartbeatStaleTasks.erase deviceId }

def armHeartbeatStaleTask (T : TelemetryState) (deviceId : DeviceId) (successfulAt : Time) : TelemetryState :=
  { T with heartbeatStaleTasks := T.heartbeatStaleTasks.set deviceId ⟨successfulAt, false⟩ }

def emit (T : TelemetryState) (deviceId : DeviceId) (type : EventType) (probe : Option ℕ)
    (observedSequence : ℕ) (source : TelemetrySource) (observedAt : Time) (data : EventData) :
    TelemetryState :=
  let sequence := T.sequence (deviceId, type, probe) observedSequence
  { T with
    eventSequences := T.eventSequences.set (deviceId, type, probe) sequence
    -- the bus fills in the event and session ids
    events := T.events.publish ⟨0, none, type, observedAt, sequence, source, some deviceId, probe, data⟩ }

def heartbeatData (T : TelemetryState) (h : HeartbeatState) : EventData :=
  [("status", .str h.status.value),
   ("lastSuccessfulCommunicationAt", h.lastSuccessfulCommunicationAt.elim .null .time),
   ("fresh", .bool (h.status = .healthy)),
   ("staleAfterSeconds", .number ((T.heartbeatStaleAfter : ℚ) / 1000000))]

def setHeartbeat (T : TelemetryState) (deviceId : DeviceId) (h : HeartbeatState) : TelemetryState :=
  { T with heartbeats := T.heartbeats.set deviceId h }

def publishHeartbeat (T : TelemetryState) (deviceId : DeviceId) (h : HeartbeatState) (observedAt : Time) :
    TelemetryState :=
  let h' := { h with sequence := T.sequence (deviceId, .thermometerHeartbeat, none) (h.sequence + 1) }
  (T.setHeartbeat deviceId h').emit deviceId .thermometerHeartbeat none (h.sequence + 1) h.adapterSource
    observedAt (T.heartbeatData h')

def ensureHeartbeat (T : TelemetryState) (deviceId : DeviceId) (source : TelemetrySource) : TelemetryState :=
  match T.heartbeats.get? deviceId with
  | some _ => T
  | none => T.setHeartbeat deviceId (.create source)

def heartbeatOf (T : TelemetryState) (deviceId : DeviceId) (source : TelemetrySource) : HeartbeatState :=
  (T.heartbeats.get? deviceId).getD (.create source)

def registerHeartbeat (T : TelemetryState) (deviceId : DeviceId) (source : TelemetrySource) (now : Time) :
    TelemetryState :=
  let h := T.heartbeatOf deviceId source
  let T := T.ensureHeartbeat deviceId source
  if h.sequence = 0 then T.publishHeartbeat deviceId h now else T

def communicationSucceeded (T : TelemetryState) (deviceId : DeviceId) (observedAt : Time)
    (source : TelemetrySource) : TelemetryState :=
  let h := T.heartbeatOf deviceId source
  let T := T.ensureHeartbeat deviceId source
  if h.lastSuccessfulCommunicationAt.any (fun previous => decide (observedAt ≤ previous)) then T
  else
    let h := { h with status := .healthy, lastSuccessfulCommunicationAt := some observedAt,
                      successfulSource := some source }
    let T := (T.cancelHeartbeatStaleTask deviceId).publishHeartbeat deviceId h observedAt
    T.armHeartbeatStaleTask deviceId observedAt

def heartbeatDisconnected (T : TelemetryState) (deviceId : DeviceId) (now : Time) : TelemetryState :=
  match T.heartbeats.get? deviceId with
  | none => T
  | some h =>
    let T := T.cancelHeartbeatStaleTask deviceId
    if h.status = .disconnected then T else T.publishHeartbeat deviceId { h with status := .disconnected } now

def HeartbeatState.resumed (h : HeartbeatState) : HeartbeatStatus :=
  if h.lastSuccessfulCommunicationAt.isNone then .unknown else .stale

def heartbeatExpected (T : TelemetryState) (deviceId : DeviceId) (now : Time) : TelemetryState :=
  match T.heartbeats.get? deviceId with
  | none => T
  | some h =>
    if h.status = .disconnected then
      T.publishHeartbeat deviceId { h with status := HeartbeatState.resumed h } now
    else T

def expired (T : TelemetryState) (now : Time) (forceDevice : Option DeviceId) (deviceId : DeviceId)
    (current : CurrentSnapshot) : Bool :=
  !current.stale && (forceDevice = some deviceId || T.staleAfter ≤ now - current.snapshot.observedAt)

def staleDevice (T : TelemetryState) (now : Time) (reason : String) (deviceId : DeviceId)
    (snapshot : DeviceSnapshot) : TelemetryState :=
  let T := T.setCurrent deviceId ⟨snapshot, true⟩
  let T := T.emit deviceId .deviceAvailability none snapshot.sequence snapshot.source now
    [("available", .bool false), ("reason", .str reason)]
  let T := T.emit deviceId .battery none snapshot.sequence snapshot.source now
    [("available", .bool false), ("percentage", .null), ("reason", .str reason)]
  snapshot.probes.foldl (fun T probe =>
    T.emit deviceId .probeAvailability (some probe.number) probe.sequence snapshot.source now
      [("available", .bool false), ("present", .bool probe.present), ("reason", .str reason)]) T

def markStale (T : TelemetryState) (now : Time) (forceDevice : Option DeviceId) (reason : String) :
    TelemetryState :=
  T.current.entries.foldl (fun T' e =>
    if T.expired now forceDevice e.1 e.2 then T'.staleDevice now reason e.1 e.2.snapshot else T') T

def percentage (p : Option ℕ) : Datum := p.elim .null (fun n => .int n)

def publishProbe (T : TelemetryState) (deviceId : DeviceId) (snapshot : DeviceSnapshot) (probe : ProbeReading) :
    TelemetryState :=
  let T := T.emit deviceId .probeAvailability (some probe.number) probe.sequence snapshot.source
    snapshot.observedAt [("available", .bool probe.available), ("present", .bool probe.present)]
  match probe.temperatureC with
  | some t =>
    if probe.available && probe.present then
      T.emit deviceId .probeTemperature (some probe.number) probe.sequence snapshot.source
        snapshot.observedAt [("temperatureC", .number t)]
    else T
  | none => T

def batteryDue (previous : Option CurrentSnapshot) (snapshot : DeviceSnapshot) : Bool :=
  previous.all (fun c => c.stale || decide (snapshot.batteryTime ≠ c.snapshot.batteryTime))

def store (T : TelemetryState) (deviceId : DeviceId) (snapshot : DeviceSnapshot) : TelemetryState :=
  let T := match snapshot.successfulCommunicationAt with
    | some t => T.communicationSucceeded deviceId t snapshot.source
    | none => T
  (T.setCurrent deviceId ⟨snapshot, false⟩).armStaleTask deviceId snapshot

def announce (T : TelemetryState) (deviceId : DeviceId) (snapshot : DeviceSnapshot)
    (previous : Option CurrentSnapshot) : TelemetryState :=
  let T := T.emit deviceId .deviceAvailability none snapshot.sequence snapshot.source snapshot.observedAt
    [("available", .bool snapshot.anyAvailable)]
  let T := T.emit deviceId .deviceConnection none snapshot.sequence snapshot.source snapshot.observedAt
    [("state", .str ConnectionState.polling.value)]
  if batteryDue previous snapshot then
    T.emit deviceId .battery none snapshot.sequence snapshot.source snapshot.batteryTime
      [("available", .bool snapshot.batteryAvailable), ("percentage", percentage snapshot.batteryPercent)]
  else T

def recordNew (T : TelemetryState) (deviceId : DeviceId) (snapshot : DeviceSnapshot) : TelemetryState :=
  snapshot.probes.foldl (fun T probe => T.publishProbe deviceId snapshot probe)
    ((T.store deviceId snapshot).announce deviceId snapshot (T.current.get? deviceId))

def record (T : TelemetryState) (deviceId : DeviceId) (snapshot : DeviceSnapshot) (now : Time) :
    TelemetryState :=
  if (T.current.get? deviceId).any (fun c => decide (snapshot.observedAt ≤ c.snapshot.observedAt)) then
    T.markStale now none "stale"
  else T.recordNew deviceId snapshot

def connection (T : TelemetryState) (deviceId : DeviceId) (state : ConnectionState) (now : Time) :
    TelemetryState :=
  match T.current.get? deviceId with
  | none => T
  | some c =>
    let T := T.emit deviceId .deviceConnection none c.snapshot.sequence c.snapshot.source now
      [("state", .str state.value)]
    if state = .disconnected then
      (T.markStale now (some deviceId) "disconnected").emit deviceId .deviceAvailability none
        c.snapshot.sequence c.snapshot.source now
        [("available", .bool false), ("reason", .str "disconnected")]
    else T

def forget (T : TelemetryState) (deviceId : DeviceId) : TelemetryState :=
  { T with
    staleTasks := T.staleTasks.erase deviceId
    heartbeatStaleTasks := T.heartbeatStaleTasks.erase deviceId
    current := T.current.erase deviceId
    heartbeats := T.heartbeats.erase deviceId
    events := T.events.forgetDevice deviceId
    eventSequences := T.eventSequences.filterKeys (fun k => k.1 ≠ deviceId) }

def remove (T : TelemetryState) (deviceId : DeviceId) (now : Time) : TelemetryState :=
  ((T.connection deviceId .disconnected now).heartbeatDisconnected deviceId now).forget deviceId

def close (T : TelemetryState) : TelemetryState :=
  { T with staleTasks := Dict.empty, heartbeatStaleTasks := Dict.empty }

def staleDeadline (T : TelemetryState) (deviceId : DeviceId) (now : Time) : Option TelemetryState :=
  match T.staleTasks.get? deviceId with
  | some ⟨snapshot, false⟩ =>
    let T := { T with staleTasks := T.staleTasks.set deviceId ⟨snapshot, true⟩ }
    -- a task that was not cancelled still finds the very snapshot object it was armed for
    if (T.current.get? deviceId).any (fun c => decide (c.snapshot = snapshot)) then
      some (T.markStale now none "stale")
    else some T
  | _ => none

def heartbeatDeadline (T : TelemetryState) (deviceId : DeviceId) (now : Time) : Option TelemetryState :=
  match T.heartbeatStaleTasks.get? deviceId with
  | some ⟨successfulAt, false⟩ =>
    let T := { T with heartbeatStaleTasks := T.heartbeatStaleTasks.set deviceId ⟨successfulAt, true⟩ }
    match T.heartbeats.get? deviceId with
    | some h =>
      if h.status = .healthy ∧ h.lastSuccessfulCommunicationAt = some successfulAt then
        some (T.publishHeartbeat deviceId { h with status := .stale } now)
      else some T
    | none => some T
  | _ => none

structure ProbeView where
  probe : ℕ
  available : Bool
  present : Bool
  fresh : Bool
  temperatureC : Option ℚ
  observedAt : Time
  sequence : ℕ
  source : TelemetrySource
  errorCode : Option String
  deriving DecidableEq

def probeView (c : CurrentSnapshot) (p : ProbeReading) : ProbeView where
  probe := p.number
  available := p.available && !c.stale
  present := p.present
  fresh := !c.stale
  temperatureC := if c.stale then none else p.temperatureC
  observedAt := p.observedAt
  sequence := p.sequence
  source := p.source
  errorCode := if c.stale then some "stale" else p.errorCode

def probes (T : TelemetryState) (deviceId : DeviceId) : List ProbeView :=
  match T.current.get? deviceId with
  | none => []
  | some c => c.snapshot.probes.map (probeView c)

def observedAt (T : TelemetryState) (deviceId : DeviceId) : Option Time :=
  (T.current.get? deviceId).map (fun c => c.snapshot.observedAt)

structure BatteryView where
  available : Bool
  fresh : Bool
  percentage : Option ℕ
  observedAt : Time
  sequence : ℕ
  source : TelemetrySource
  deriving DecidableEq

def battery (T : TelemetryState) (deviceId : DeviceId) : Option BatteryView :=
  (T.current.get? deviceId).map (fun c =>
    { available := c.snapshot.batteryAvailable && !c.stale
      fresh := !c.stale
      percentage := if c.stale then none else c.snapshot.batteryPercent
      observedAt := c.snapshot.batteryTime
      sequence := c.snapshot.sequence
      source := c.snapshot.source })

end TelemetryState

inductive TelemetryOp
  | record (deviceId : DeviceId) (snapshot : DeviceSnapshot) (now : Time)
  | markStale (now : Time) (forceDevice : Option DeviceId) (reason : String)
  | connection (deviceId : DeviceId) (state : ConnectionState) (now : Time)
  | ensureHeartbeat (deviceId : DeviceId) (source : TelemetrySource)
  | registerHeartbeat (deviceId : DeviceId) (source : TelemetrySource) (now : Time)
  | communicationSucceeded (deviceId : DeviceId) (observedAt : Time) (source : TelemetrySource)
  | heartbeatDisconnected (deviceId : DeviceId) (now : Time)
  | heartbeatExpected (deviceId : DeviceId) (now : Time)
  | staleDeadline (deviceId : DeviceId) (now : Time)
  | heartbeatDeadline (deviceId : DeviceId) (now : Time)
  | remove (deviceId : DeviceId) (now : Time)
  | close

def TelemetryOp.IsRemove : TelemetryOp → Prop
  | .remove _ _ => True
  | _ => False

def TelemetryState.step (T : TelemetryState) : TelemetryOp → Option TelemetryState
  | .record d s now => some (T.record d s now)
  | .markStale now force reason => some (T.markStale now force reason)
  | .connection d state now => some (T.connection d state now)
  | .ensureHeartbeat d source => some (T.ensureHeartbeat d source)
  | .registerHeartbeat d source now => some (T.registerHeartbeat d source now)
  | .communicationSucceeded d t source => some (T.communicationSucceeded d t source)
  | .heartbeatDisconnected d now => some (T.heartbeatDisconnected d now)
  | .heartbeatExpected d now => some (T.heartbeatExpected d now)
  | .staleDeadline d now => T.staleDeadline d now
  | .heartbeatDeadline d now => T.heartbeatDeadline d now
  | .remove d now => some (T.remove d now)
  | .close => some T.close

def TelemetryState.Initial (T : TelemetryState) : Prop :=
  ∃ historySize queueSize sessionId staleAfter heartbeatStaleAfter h h' h₁ h₂,
    T = .create (.create historySize queueSize sessionId h h') staleAfter heartbeatStaleAfter h₁ h₂

namespace TelemetryState

def session : TelemetryState :=
  .create (.create 200 100 1 (by decide) (by decide)) 30000000 90000000 (by decide) (by decide)

theorem probeOne_range : 1 ≤ 1 ∧ 1 ≤ 4 := by decide

def sampleSnapshot (observedAt : Time) (sequence : ℕ) (h : 1 ≤ sequence) : DeviceSnapshot where
  model := "igrill_v202"
  probes := [⟨1, true, true, some 60, observedAt, sequence, .physical, none, probeOne_range, h, by decide⟩]
  batteryPercent := some 80
  batteryAvailable := true
  observedAt := observedAt
  sequence := sequence
  source := .physical
  batteryObservedAt := some 0
  successfulCommunicationAt := some observedAt
  probe_count := ⟨le_refl 1, Nat.succ_le_succ (Nat.zero_le 3)⟩
  probe_numbers := List.nodup_singleton 1
  sequence_pos := h
  battery_range := by decide
  battery_available := by decide

end TelemetryState

end PitbluCore
