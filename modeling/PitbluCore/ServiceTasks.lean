import PitbluCore.Service

/-!
The tasks of the service from one await to the next. `now` and `clock` are the readings
of the wall clock and of the monotonic clock between two awaits. Waiting for the I/O
lock is always an await here, so the runs include those of a lock that was free.
-/

namespace PitbluCore

open Library

/-- How the await of a task ends. `crashed` is an exception that a poll does not handle. -/
inductive Outcome
  | resumed
  | found (results : List Advertisement)
  | released (released : Bool)
  | linked
  | read (snapshot : DeviceSnapshot)
  | raised (e : Failure)
  | crashed

namespace Service

variable (s : Service) (t : TaskId)

section Procedures

def nextDelay (device : DeviceId) : Service :=
  { s with backoffs := s.backoffs.set device ((s.backoffs.get? device).getD .create).nextDelay.2 }

def recoverNext (device : DeviceId) : Service :=
  if s.recoveryWanted device then
    (s.nextDelay device).suspend t (.recovery device .sleeping)
  else s.endRecovery t device

variable (call : Call) (row : DeviceRow)

def leave (succeeded : Bool) : Service :=
  if !call.recovering then s.endTask t
  else if succeeded then s.endRecovery t call.device
  else s.recoverNext t call.device

def complete (now : Time) : Service :=
  ((s.finish call.operation false now).log (.succeeded call.device call.action)).leave t call true

def fail (stage : Stage) (e : Failure) (now : Time) : Service :=
  let observed := if call.action = .disconnect then .disconnected else .backoff
  let s := ((s.noteFailure stage e).setObserved call.device observed).finish call.operation true now
  let s := if call.action ≠ .disconnect && !call.recovering then s.scheduleRecovery call.device false else s
  s.leave t call false

def await (point : Point) : Service := s.suspend t (.procedure call row point)

def disconnectDevice (now : Time) : Service :=
  let T := s.telemetry.connection call.device .disconnected now
  let s := { s with telemetry := T.heartbeatDisconnected call.device now }
  (s.setDesired call.device .disconnected .disconnected).complete t call now

def pollingStopped (now : Time) : Service :=
  if call.action = .disconnect ∧ s.owner ≠ none ∧ s.owner ≠ some call.device then s.disconnectDevice t call now
  else s.await t call row .lockDisconnect

def haltPolling (now : Time) : Service :=
  match s.pollingTasks.get? call.device with
  | some task => (s.stopPolling call.device task).await t call row (.stoppingPolling task)
  | none => s.pollingStopped t call row now

def expectHeartbeat (device : DeviceId) (now : Time) : Service :=
  { s with telemetry := s.telemetry.heartbeatExpected device now }

def recoveryStopped (now : Time) : Service :=
  match call.action with
  | .disconnect => s.haltPolling t call row now
  | .connect =>
    if s.connectedDevice = some call.device && s.adapter.isConnected then s.complete t call now
    else (s.expectHeartbeat call.device now).await t call row .lockConnect
  | .reconnect => (s.expectHeartbeat call.device now).haltPolling t call row now

def beginProcedure (now : Time) : Service :=
  let s := s.markRunning call.operation now
  match s.store.device call.device with
  | none => (s.finish call.operation true now).leave t call false
  | some row =>
    match (if call.recovering then none else s.recoveries.get? call.device) with
    | some task => (s.stopRecovery call.device task).await t call row (.stoppingRecovery task)
    | none => s.recoveryStopped t call row now

def lockDisconnect : Service := (s.acquire t).disconnectAdapter.await t call row .disconnecting

def releaseAdapter (discoveryId : DiscoveryId) : Service :=
  { s with candidates := s.candidates.erase discoveryId
           ioLock := none
           connectedDevice := none
           owner := none }

def disconnected (now : Time) : Service :=
  if call.action = .disconnect then (s.releaseAdapter row.discoveryId).disconnectDevice t call now
  else if row.identity.isSome then s.await t call row .releasing
  else s.release.await t call row .lockConnect

def readInitial (now : Time) : Service :=
  match s.adapter.client with
  | some link => s.await t call row (.reading link)
  | none => s.release.fail t call .initialRead Adapter.notConnected now

def connectTo (candidate : DiscoveredDevice) (now : Time) : Service :=
  let s := s.logConnect call.device candidate
  -- on a connected adapter `connect` returns None and keeps the link there is
  if s.adapter.isConnected then s.readInitial t call row now
  else if s.adapter.current candidate then s.await t call row (.connecting candidate)
  else s.release.fail t call .connectInitialise Adapter.unsupportedDevice now

def identityMissing (now : Time) : Service :=
  s.release.fail t call .registeredIdentityMissing ⟨"StateConflictError",
    "registered identity not found; legacy registrations require a fresh scan and explicit selection"⟩ now

def resolved (candidate : DiscoveredDevice) (now : Time) : Service :=
  (s.updateDevice call.device (fun row => { row with discoveryId := candidate.discoveryId })).connectTo
    t call row candidate now

def lockConnect (now : Time) : Service :=
  let s := s.acquire t
  match (if call.action = .reconnect && row.identity.isSome then none
    else s.candidates.get? row.discoveryId) with
  | some candidate => s.connectTo t call row candidate now
  | none => s.await t call row .discovering

def discovered (results : List Advertisement) (now : Time) : Service :=
  let found := s.adapter.candidates results
  let s := s.discover results
  match row.identity with
  | none => s.identityMissing t call now
  | some identity =>
    match found.find? (fun c => c.identity = some identity) with
    | some candidate => s.resolved t call row candidate now
    | none => s.await t call row .releasingMissing

def rediscovered (results : List Advertisement) (now : Time) : Service :=
  let found := s.adapter.candidates results
  let s := s.discover results
  match found.find? (fun c => c.identity = row.identity) with
  | some candidate => s.resolved t call row candidate now
  | none => s.identityMissing t call now

def connected (candidate : DiscoveredDevice) (now : Time) : Service :=
  let link := ⟨call.device, candidate⟩
  let T := s.telemetry.communicationSucceeded call.device now s.adapter.source
  { s with adapter := s.adapter.connect link, telemetry := T }.await t call row (.reading link)

def observedConnected (force : Bool) : ConnectionState :=
  ((ConnectionStateMachine.connected force).map ConnectionStateMachine.observed).getD .backoff

def establish (link : Link) (snapshot : DeviceSnapshot) (now : Time) : Service :=
  let s := s.release.record call.device snapshot link now
  let s := ((s.setConnected (some call.device)).clearFailure).startPolling call.device
  s.setDesired call.device .connected (observedConnected (call.action = .reconnect))

def resumeProcedure (point : Point) (outcome : Outcome) (now : Time) : Option Service :=
  match point, outcome with
  | .stoppingRecovery task, .resumed =>
    if s.ended [task] then some (s.recoveryStopped t call row now) else none
  | .stoppingPolling task, .resumed => if s.ended [task] then some (s.pollingStopped t call row now) else none
  | .lockDisconnect, .resumed => if s.ioLock.isNone then some (s.lockDisconnect t call row) else none
  | .disconnecting, .resumed => some (s.disconnected t call row now)
  | .releasing, .released _ => some (s.release.await t call row .lockConnect)
  | .releasing, .raised e => some (s.release.fail t call .bluezRelease e now)
  | .lockConnect, .resumed => if s.ioLock.isNone then some (s.lockConnect t call row now) else none
  | .discovering, .found results => some (s.discovered t call row results now)
  | .discovering, .raised e => some (s.release.fail t call .discovery e now)
  | .releasingMissing, .released released =>
    some (if released then s.await t call row .rediscovering else s.identityMissing t call now)
  | .releasingMissing, .raised e => some (s.release.fail t call .bluezRelease e now)
  | .rediscovering, .found results => some (s.rediscovered t call row results now)
  | .rediscovering, .raised e => some (s.release.fail t call .rediscovery e now)
  | .connecting candidate, .linked => some (s.connected t call row candidate now)
  | .connecting _, .raised e => some (s.release.fail t call .connectInitialise e now)
  | .reading link, .read snapshot => some ((s.establish call link snapshot now).complete t call now)
  | .reading _, .raised e => some (s.release.fail t call .initialRead e now)
  | _, _ => none

/-- The tasks a point waits for also when it is cancelled. -/
def Point.awaited : Point → List TaskId
  | .stoppingRecovery task | .stoppingPolling task => [task]
  | _ => []

def interruptProcedure (point : Point) (now : Time) : Option Service :=
  if s.ended (Point.awaited point) then
    let s := (if point.holdsLock then s.release else s).markInterrupted call.operation now
    some (if call.recovering then s.endRecovery t call.device else s.endTask t)
  else none

def attempt (device : DeviceId) (now : Time) : Service :=
  ((s.logAttempt device).newOperation .reconnect (some device) now).beginProcedure t
    ⟨s.nextOperation, device, .reconnect, true⟩ now

def resumeRecovery (device : DeviceId) (point : RecoveryPoint) (now : Time) : Service :=
  match point with
  | .starting immediate =>
    if immediate && s.recoveryWanted device then s.attempt t device now else s.recoverNext t device
  | .sleeping => s.attempt t device now

end Procedures

section Polling

variable (device : DeviceId)

def pollNext (poll : PollState) : Service :=
  if s.connectedDevice = some device then s.suspend t (.polling device (.sleeping poll)) else s.endPolling t device

def observe (state : ConnectionState) (now : Time) : Service :=
  { s.setObserved device state with telemetry := s.telemetry.connection device state now }

def pollEnd (poll : PollState) (now clock : Time) : Service :=
  if !s.adapter.isConnected || s.settings.reconnectAfter ≤ clock - poll.lastValid then
    (((s.noteError .deviceReadFailed).observe device .backoff now).scheduleRecovery device false).endPolling t device
  else s.pollNext t device poll

def pollCounted (poll : PollState) (now clock : Time) : Service :=
  if poll.failures = 0 then s.pollEnd t device poll now clock
  else
    let s := if s.settings.degradedAfter ≤ poll.failures then s.observe device .degraded now else s
    s.pollEnd t device { poll with stableSince := clock } now clock

def pollFailed (poll : PollState) (now clock : Time) : Service :=
  s.pollCounted t device { poll with failures := poll.failures + 1 } now clock

def advances (poll : PollState) (snapshot : DeviceSnapshot) (now : Time) : Bool :=
  now - snapshot.observedAt < s.telemetry.staleAfter && snapshot.anyAvailable &&
    poll.lastObserved.all (fun last => decide (last < snapshot.observedAt))

def resetBackoff : Service :=
  { s with backoffs := s.backoffs.set device ((s.backoffs.get? device).getD .create).reset }

def pollRead (poll : PollState) (link : Link) (snapshot : DeviceSnapshot) (now clock : Time) : Service :=
  let s := s.release.record device snapshot link now
  if s.advances poll snapshot now then
    let s := s.setObserved device .polling
    let s := if s.settings.stableAfter ≤ clock - poll.stableSince then s.resetBackoff device else s
    s.pollCounted t device ⟨0, clock, poll.stableSince, some snapshot.observedAt⟩ now clock
  else s.pollFailed t device poll now clock

def pollLocked (poll : PollState) (now clock : Time) : Service :=
  match s.adapter.client with
  | some link => (s.acquire t).suspend t (.polling device (.reading poll link))
  | none => s.pollFailed t device poll now clock

def resumePolling (point : PollPoint) (outcome : Outcome) (now clock : Time) : Option Service :=
  match point, outcome with
  | .starting, .resumed => some (s.pollNext t device ⟨0, clock, clock, s.telemetry.observedAt device⟩)
  | .sleeping poll, .resumed =>
    some (if s.connectedDevice = some device then s.suspend t (.polling device (.lock poll))
      else s.endPolling t device)
  | .lock poll, .resumed => if s.ioLock.isNone then some (s.pollLocked t device poll now clock) else none
  | .reading poll link, .read snapshot => some (s.pollRead t device poll link snapshot now clock)
  | .reading poll _, .raised _ => some (s.release.pollFailed t device poll now clock)
  | .reading _ _, .crashed => some (s.release.suspend t (.pollingFailed device))
  | _, _ => none

def interruptPolling (point : PollPoint) : Service :=
  match point with
  | .reading _ _ => s.release.endPolling t device
  | _ => s.endPolling t device

def pollCallback : Service :=
  ((s.noteError .pollingTaskFailed).scheduleRecovery device false).endPolling t device

end Polling

section Scans

def trimResults (results : Dict OperationId (List DiscoveredDevice)) : Dict OperationId (List DiscoveredDevice) :=
  match results.keys with
  | oldest :: _ => if 100 < results.keys.length then results.erase oldest else results
  | [] => results

def scanned (operation : OperationId) (results : List Advertisement) (now : Time) : Service :=
  let found := s.adapter.candidates results
  let s := s.release.discover results
  ({ s with scanResults := trimResults (s.scanResults.set operation found) }.finish operation false now).endTask t

def resumeScan (point : ScanPoint) (outcome : Outcome) (now : Time) : Option Service :=
  match point, outcome with
  | .starting operation, .resumed => some ((s.markRunning operation now).suspend t (.scan (.lock operation)))
  | .lock operation, .resumed =>
    if s.ioLock.isNone then some ((s.acquire t).suspend t (.scan (.discovering operation))) else none
  | .discovering operation, .found results => some (s.scanned t operation results now)
  | .discovering operation, .raised _ => some ((s.release.finish operation true now).endTask t)
  | _, _ => none

def interruptScan (point : ScanPoint) (now : Time) : Service :=
  match point with
  -- the coroutine has not started, so nothing in it handles the cancellation
  | .starting _ => s.endTask t
  | .lock operation => (s.markInterrupted operation now).endTask t
  | .discovering operation => (s.release.markInterrupted operation now).endTask t

def discoveryNext : Service := if s.closing then s.endTask t else s.suspend t (.discovery .sleeping)

def resumeDiscovery (point : DiscoveryPoint) (outcome : Outcome) : Option Service :=
  match point, outcome with
  | .starting, .resumed => some (s.discoveryNext t)
  | .sleeping, .resumed => some (s.suspend t (.discovery .lock))
  | .lock, .resumed => if s.ioLock.isNone then some ((s.acquire t).suspend t (.discovery .discovering)) else none
  | .discovering, .found results => some ({ s.release.discover results with discoveryError := false }.discoveryNext t)
  | .discovering, .raised _ => some ({ s.release with discoveryError := true }.discoveryNext t)
  | _, _ => none

def interruptDiscovery (point : DiscoveryPoint) : Service :=
  if point = .discovering then s.release.endTask t else s.endTask t

end Scans

section Deletion

variable (device : DeviceId)

def removeDevice (now : Time) : Service :=
  { s with telemetry := s.telemetry.remove device now
           store := s.store.deleteDevice device
           owner := if s.owner = some device then none else s.owner
           trace := .deleted device :: s.trace }

def deletePolling (waited : List TaskId) : Service × DeletePoint :=
  match s.pollingTasks.get? device with
  | some task => (s.stopPolling device task, .stoppingPolling waited task)
  | none => (s, .lock waited)

def deleteRecoveryStopped (task : TaskId) (now : Time) : Service :=
  if s.connectedDevice = some device then
    (s.deletePolling device [task]).1.suspend t (.deletion device (s.deletePolling device [task]).2)
  else (s.removeDevice device now).endTask t

def deleteDisconnected (now : Time) : Service :=
  ((s.release.setConnected none).removeDevice device now).endTask t

def resumeDeletion (point : DeletePoint) (outcome : Outcome) (now : Time) : Option Service :=
  match point, outcome with
  | .stoppingRecovery task, .resumed =>
    if s.ended [task] then some (s.deleteRecoveryStopped t device task now) else none
  | .stoppingPolling waited task, .resumed =>
    if s.ended [task] then some (s.suspend t (.deletion device (.lock (task :: waited)))) else none
  | .lock waited, .resumed =>
    if s.ioLock.isNone then
      some ((s.acquire t).disconnectAdapter.suspend t (.deletion device (.disconnecting waited)))
    else none
  | .disconnecting _, .resumed => some (s.deleteDisconnected t device now)
  | _, _ => none

end Deletion

section Closing

def cancelAll (ts : List TaskId) : Service := ts.foldl cancel s

def scheduledTasks : List TaskId := (s.tasks.entries.filter (fun e => e.2.frame.scheduled)).map Prod.fst

def closeAdapter (now : Time) : Service :=
  let s := { s with store := s.store.interruptOperations now }
  let s := match s.connectedDevice with
    | some device => s.observe device .disconnected now
    | none => s
  s.disconnectAdapter.suspend t (.closing .disconnecting)

def closeRemaining (now : Time) : Service :=
  let ts := s.scheduledTasks
  if ts = [] then s.closeAdapter t now else (s.cancelAll ts).suspend t (.closing (.stoppingRemaining ts))

def closePolling (now : Time) : Service :=
  let ts := s.pollingTasks.values
  let s := { s with pollingTasks := Dict.empty }.cancelAll ts
  if ts = [] then s.closeRemaining t now else s.suspend t (.closing (.stoppingPolling ts))

def closeRecoveries (now : Time) : Service :=
  let ts := s.recoveries.values
  let s := { s with recoveries := Dict.empty }.cancelAll ts
  if ts = [] then s.closePolling t now else s.suspend t (.closing (.stoppingRecoveries ts))

def closeOperations (now : Time) : Service :=
  let ts := s.scheduledTasks
  if ts = [] then s.closeRecoveries t now else (s.cancelAll ts).suspend t (.closing (.stoppingOperations ts))

def resumeClosing (point : ClosePoint) (outcome : Outcome) (now : Time) : Option Service :=
  match point, outcome with
  | .stoppingDiscovery task, .resumed => if s.ended [task] then some (s.closeOperations t now) else none
  | .stoppingOperations ts, .resumed => if s.ended ts then some (s.closeRecoveries t now) else none
  | .stoppingRecoveries ts, .resumed => if s.ended ts then some (s.closePolling t now) else none
  | .stoppingPolling ts, .resumed => if s.ended ts then some (s.closeRemaining t now) else none
  | .stoppingRemaining ts, .resumed => if s.ended ts then some (s.closeAdapter t now) else none
  | .disconnecting, .resumed => some ({ s with telemetry := s.telemetry.close, closed := true }.endTask t)
  | _, _ => none

end Closing

def advance (frame : Frame) (outcome : Outcome) (now clock : Time) : Option Service :=
  match frame, outcome with
  | .queued call, .resumed => some (s.beginProcedure t call now)
  | .procedure call row point, outcome => s.resumeProcedure t call row point outcome now
  | .recovery device point, .resumed => some (s.resumeRecovery t device point now)
  | .polling device point, outcome => s.resumePolling t device point outcome now clock
  | .pollingFailed device, .resumed => some (s.pollCallback t device)
  | .scan point, outcome => s.resumeScan t point outcome now
  | .discovery point, outcome => s.resumeDiscovery t point outcome
  | .event row, .resumed => some ((s.publishOperation row now).endTask t)
  | .registerHeartbeat device desired, .resumed => some ((s.registerHeartbeat device desired now).endTask t)
  | .deletion device point, outcome => s.resumeDeletion t device point outcome now
  | .closing point, outcome => s.resumeClosing t point outcome now
  | _, _ => none

def interrupted (frame : Frame) (now : Time) : Option Service :=
  match frame with
  | .queued _ | .event _ | .registerHeartbeat _ _ => some (s.endTask t)
  | .procedure call _ point => s.interruptProcedure t call point now
  | .recovery device _ => some (s.endRecovery t device)
  | .polling device point => some (s.interruptPolling t device point)
  | .scan point => some (s.interruptScan t point now)
  | .discovery point => some (s.interruptDiscovery t point)
  | .pollingFailed _ | .deletion _ _ | .closing _ => none

def resume (outcome : Outcome) (now clock : Time) : Option Service :=
  match s.tasks.get? t with
  | none => none
  | some task =>
    -- a cancellation is raised at the await; where CPython 3.11 loses one is said by `stepOn`
    if task.cancelled then s.interrupted t task.frame now else s.advance t task.frame outcome now clock

end Service

end PitbluCore
