import Mathlib.Logic.Relation
import PitbluCore.ServiceRuns
import PitbluCore.TelemetryResidue

/-!
What the steps of the service can do to the part of its state that says who uses the
adapter. A segment of a task, from one await to the next, is a chain of moves and then
the task suspends again or ends; a request is one move of its own.
-/

namespace PitbluCore

open Library Relation

inductive Role
  | procedure (call : Call)
  | recovery (device : DeviceId)
  | polling (device : DeviceId)
  | pollingFailed (device : DeviceId)
  | scan (operation : OperationId)
  | discovery
  | event
  | registerHeartbeat (device : DeviceId)
  | deletion (device : DeviceId)
  | closing
  deriving DecidableEq

def ScanPoint.operation : ScanPoint → OperationId
  | .starting operation | .lock operation | .discovering operation => operation

namespace Frame

def role : Frame → Role
  | .queued call => .procedure call
  | .procedure call _ _ => .procedure call
  | .recovery device _ => .recovery device
  | .polling device _ => .polling device
  | .pollingFailed device => .pollingFailed device
  | .scan point => .scan point.operation
  | .discovery _ => .discovery
  | .event _ => .event
  | .registerHeartbeat device _ => .registerHeartbeat device
  | .deletion device _ => .deletion device
  | .closing _ => .closing

def holdsLock : Frame → Bool
  | .procedure _ _ point => point.holdsLock
  | .polling _ (.reading _ _) => true
  | .scan (.discovering _) => true
  | .discovery .discovering => true
  | .deletion _ (.disconnecting _) => true
  | _ => false

def disconnecting : Frame → Bool
  | .procedure _ _ .disconnecting => true
  | .deletion _ (.disconnecting _) => true
  | _ => false

def link : Frame → Option Link
  | .procedure _ _ (.reading link) => some link
  | .polling _ (.reading _ link) => some link
  | _ => none

end Frame

def Point.connects : Point → Bool
  | .stoppingRecovery _ | .stoppingPolling _ | .lockDisconnect | .disconnecting => false
  | _ => true

namespace DeletePoint

def awaited : DeletePoint → List TaskId
  | .stoppingRecovery task | .stoppingPolling _ task => [task]
  | _ => []

def waited : DeletePoint → List TaskId
  | .stoppingRecovery _ => []
  | .stoppingPolling ts _ | .lock ts | .disconnecting ts => ts

end DeletePoint

def Frame.Valid : Frame → Prop
  | .queued call => call.recovering = false
  | .procedure call _ point =>
    (call.recovering = true → call.action = .reconnect) ∧ (point.connects = true → call.action ≠ .disconnect)
  | _ => True

def Frame.Plain : Frame → Prop
  | .queued _ | .procedure _ _ _ | .recovery _ .sleeping => False
  | _ => True

theorem Frame.Plain.not_procedure {f : Frame} (h : f.Plain) {P : Call → DeviceRow → Prop} :
    ∀ call row point, f = .procedure call row point → P call row := by
  rintro call row point rfl
  cases h

theorem Frame.Plain.not_sleeping {f : Frame} (h : f.Plain) {P : DeviceId → Prop} :
    ∀ d, f = .recovery d .sleeping → P d := by
  rintro d rfl
  cases h

theorem Frame.Plain.not_queued {f : Frame} (h : f.Plain) (call : Call) : f ≠ .queued call := by
  rintro rfl
  cases h

namespace Role

def executes (device : DeviceId) : Role → Bool
  | .procedure call => call.action ≠ .disconnect && call.device = device
  | _ => false

def recovers (device : DeviceId) : Role → Bool
  | .procedure call => call.recovering && call.device = device
  | .recovery d => d = device
  | _ => false

def polls (device : DeviceId) : Role → Bool
  | .polling d => d = device
  | _ => false

def supports (device : DeviceId) (role : Role) : Bool :=
  role.recovers device || role.polls device || role = .pollingFailed device

def serves (device : DeviceId) (role : Role) : Bool :=
  role.executes device || role.recovers device || role.polls device

def touches (device : DeviceId) (role : Role) : Bool :=
  role.serves device || role = .registerHeartbeat device

def operation : Role → Option OperationId
  | .procedure call => some call.operation
  | .scan operation => some operation
  | _ => none

inductive Handover (n : OperationId) : Role → Role → Prop
  | same (r : Role) : Handover n r r
  | attempt (device : DeviceId) {id : OperationId} (h : n ≤ id) :
      Handover n (.recovery device) (.procedure ⟨id, device, .reconnect, true⟩)
  | retry {call : Call} (h : call.recovering = true) : Handover n (.procedure call) (.recovery call.device)
  | crash (device : DeviceId) : Handover n (.polling device) (.pollingFailed device)

end Role

def Task.Stopped (task : Task) : Prop := task.cancelled = true ∨ ∃ d, task.frame = .pollingFailed d

theorem Task.stopped_cancel (task : Task) : task.cancel.Stopped := by
  unfold Task.cancel
  split
  · rename_i d hf
    exact .inr ⟨d, hf⟩
  · exact .inl rfl

theorem Task.Stopped.cancel {task : Task} (_ : task.Stopped) : task.cancel.Stopped := task.stopped_cancel

def Task.engages (device : DeviceId) (task : Task) : Bool :=
  task.frame.role.executes device ||
    ((task.frame.role.recovers device || task.frame.role.polls device) && !task.cancelled)

/-- The state that decides who may use the adapter and on whose behalf. -/
structure Control where
  client : Option Link
  connectedDevice : Option DeviceId
  tasks : Dict TaskId Task
  pollingTasks : Dict DeviceId TaskId
  recoveries : Dict DeviceId TaskId
  operations : Dict OperationId OperationRow
  stored : Dict OperationId OperationRow
  active : Dict DeviceId OperationId
  ioLock : Option TaskId
  owner : Option DeviceId
  closing : Bool
  closed : Bool
  desire : DeviceId → Option (DesiredState × Bool)
  nextTask : TaskId
  nextOperation : OperationId
  trace : List TraceItem

def Service.control (s : Service) : Control where
  client := s.adapter.client
  connectedDevice := s.connectedDevice
  tasks := s.tasks
  pollingTasks := s.pollingTasks
  recoveries := s.recoveries
  operations := s.operations
  stored := s.store.operations
  active := s.active
  ioLock := s.ioLock
  owner := s.owner
  closing := s.closing
  closed := s.closed
  desire := fun device => (s.store.device device).map (fun row => (row.desiredState, row.autoReconnect))
  nextTask := s.nextTask
  nextOperation := s.nextOperation
  trace := s.trace

structure Selection where
  deviceId : DeviceId
  discoveryId : DiscoveryId
  identity : Option Identity

def DeviceRow.selection (row : DeviceRow) : Selection := ⟨row.deviceId, row.discoveryId, row.identity⟩

structure Registry where
  rows : DeviceId → Option Selection
  candidates : Dict DiscoveryId DiscoveredDevice
  nativeById : List DiscoveryId
  nextDiscoveryId : DiscoveryId

def Service.registry (s : Service) : Registry where
  rows := fun device => (s.store.device device).map DeviceRow.selection
  candidates := s.candidates
  nativeById := s.adapter.nativeById
  nextDiscoveryId := s.adapter.nextDiscoveryId

namespace Control

def Idle (c : Control) (device : DeviceId) : Prop :=
  ∀ t task, c.tasks.get? t = some task → task.engages device = false

def Wanted (c : Control) (device : DeviceId) : Prop := c.closing = false ∧ c.desire device = some (.connected, true)

def pendingOperation (c : Control) (device : DeviceId) : Option OperationRow :=
  ((c.active.get? device).bind c.operations.get?).filter (fun row => row.status.pending)

def Live (c : Control) (id : OperationId) : Prop :=
  ∃ row, c.operations.get? id = some row ∧ row.operationId = id ∧ row.status.pending

def Pending (c : Control) (call : Call) : Prop :=
  (∃ row, c.operations.get? call.operation = some row ∧ row.operationId = call.operation ∧ row.status.pending ∧
    row.deviceId = some call.device ∧ row.kind = call.action.kind) ∧
  (c.closing = false → ∃ row, c.stored.get? call.operation = some row ∧ row.status.pending ∧
    row.deviceId = some call.device ∧ row.kind = call.action.kind)

theorem Pending.live {c : Control} {call : Call} (h : c.Pending call) : c.Live call.operation :=
  h.1.imp (fun _ hrow => ⟨hrow.1, hrow.2.1, hrow.2.2.1⟩)

def Accounted (c : Control) : Role → Prop
  | .procedure call => c.Pending call
  | .scan operation => c.Live operation
  | _ => True

end Control

namespace Service

variable (s : Service)

def acting : Action → Option Frame
  | .resume t _ _ _ => (s.tasks.get? t).bind (fun task => if task.cancelled then none else some task.frame)
  | _ => none

def releases (a : Action) : Option DeviceId :=
  match s.acting a with
  | some (.procedure call _ .disconnecting) => if call.action = .disconnect then some call.device else none
  | _ => none

def removes (a : Action) : Option DeviceId :=
  match s.acting a, a with
  | some (.deletion device (.disconnecting _)), _ => some device
  | some (.deletion device (.stoppingRecovery _)), _ =>
    if s.connectedDevice = some device then none else some device
  | _, .deleteDevice device _ =>
    if (s.store.device device).isSome && (s.pendingOperation device).isNone && !s.recoveries.contains device &&
      s.connectedDevice ≠ some device then some device else none
  | _, _ => none

def clears (a : Action) : Option DeviceId :=
  match s.acting a with
  | some (.deletion device (.disconnecting _)) => some device
  | _ => none

def finds (a : Action) : Option DeviceId :=
  let found := fun (call : Call) =>
    if call.action = .connect && s.connectedDevice = some call.device && s.adapter.isConnected then some call.device
    else none
  match s.acting a with
  | some (.queued call) => if s.recoveries.contains call.device then none else found call
  | some (.procedure call _ (.stoppingRecovery _)) => found call
  | _ => none

def commits (a : Action) : Option DeviceId :=
  match s.acting a, a with
  | some (.procedure call _ (.reading _)), .resume _ (.read _) _ _ =>
    if call.recovering then some call.device else none
  | _, _ => none

def wakes (a : Action) : Option DeviceId :=
  match s.acting a with
  | some (.recovery device .sleeping) => some device
  | _ => none

def givesUp (lastValid clock : Time) : Bool :=
  !s.adapter.isConnected || decide (s.settings.reconnectAfter ≤ clock - lastValid)

def begins (a : Action) : Option DeviceId :=
  match s.acting a with
  | some (.queued call) => some call.device
  | _ => none

def rearms (a : Action) : Option DeviceId :=
  let rearmed := fun (device : DeviceId) (spent : Bool) =>
    if spent && s.recoveryWanted device && !s.recoveries.contains device then some device else none
  match s.acting a, a with
  | some (.pollingFailed device), _ => rearmed device true
  | some (.polling device (.lock _)), _ => rearmed device s.adapter.client.isNone
  | some (.polling device (.reading poll link)), .resume _ (.read snapshot) now clock =>
    let recorded := s.record device snapshot link now
    rearmed device (s.givesUp (if recorded.advances poll snapshot now then clock else poll.lastValid) clock)
  | some (.polling device (.reading poll _)), .resume _ (.raised _) _ clock =>
    rearmed device (s.givesUp poll.lastValid clock)
  | _, _ => none

def takesRecoveries (a : Action) : Bool :=
  match s.acting a with
  | some (.closing (.stoppingDiscovery _)) => s.scheduledTasks = []
  | some (.closing (.stoppingOperations _)) => true
  | _ => false

def takesPolling (a : Action) : Bool :=
  match s.acting a with
  | some (.closing (.stoppingRecoveries _)) => true
  | _ => s.takesRecoveries a && s.recoveries.values = []

end Service

/-- What a run is promised at the places where the service acts on a check it made earlier. -/
structure Guards where
  release : DeviceId → Control → Prop := fun _ _ => True
  remove : DeviceId → Control → Prop := fun _ _ => True
  clear : DeviceId → Control → Prop := fun _ _ => True
  found : DeviceId → Dict TaskId Task → Prop := fun _ _ => True
  found_set : ∀ d tasks t task, found d tasks → tasks.get? t = none → found d (tasks.set t task) := by intros; trivial
  commit : DeviceId → Option (DesiredState × Bool) → Prop := fun _ _ => True
  keep : DeviceId → Option (DesiredState × Bool) → Prop := fun _ _ => True
  register : DeviceId → Dict TaskId Task → Prop := fun _ _ => True
  patch : DeviceId → Service.DevicePatch → Dict TaskId Task → Prop := fun _ _ _ => True
  wake : DeviceId → Control → Prop := fun _ _ => True
  start : DeviceId → Dict TaskId Task → Prop := fun _ _ => True
  rearm : DeviceId → Dict TaskId Task → Prop := fun _ _ => True
  takeRecoveries : Control → Prop := fun _ => True
  takePolling : Control → Prop := fun _ => True
  scan : Dict OperationId OperationRow → Prop := fun _ => True

structure Guards.Promised (G : Guards) (s : Service) (a : Service.Action) : Prop where
  release : ∀ d, s.releases a = some d → G.release d s.control := by intros; trivial
  remove : ∀ d, s.removes a = some d → G.remove d s.control := by intros; trivial
  clear : ∀ d, s.clears a = some d → G.clear d s.control := by intros; trivial
  found : ∀ d, s.finds a = some d → G.found d s.tasks := by intros; trivial
  commit : ∀ d, s.commits a = some d → G.commit d (s.control.desire d) := by intros; trivial
  keep : ∀ s', s.step a = some s' → ∀ d, G.keep d (s'.control.desire d) := by intros; trivial
  register : ∀ id friendlyName automatic suffix now r, a = .register id friendlyName automatic suffix now →
    s.register id friendlyName automatic suffix now = .ok r → G.register r.2 s.tasks := by intros; trivial
  patch : ∀ d patch s', a = .patchDevice d patch → s.patchDevice d patch = .ok s' → G.patch d patch s.tasks := by
    intros; trivial
  wake : ∀ d, s.wakes a = some d → G.wake d s.control := by intros; trivial
  start : ∀ d, s.begins a = some d → G.start d s.tasks := by intros; trivial
  rearm : ∀ d, s.rearms a = some d → G.rearm d s.tasks := by intros; trivial
  takeRecoveries : s.takesRecoveries a = true → G.takeRecoveries s.control := by intros; trivial
  takePolling : s.takesPolling a = true → G.takePolling s.control := by intros; trivial
  scan : ∀ now, a = .startScan now → s.store.recentOperations.find? (fun row => row.kind = .scan &&
    row.status.pending) = none →
    G.scan s.store.operations := by intros; trivial

def Control.Rearms (c : Control) (G : Guards) (device : DeviceId) : Prop :=
  c.Wanted device → c.recoveries.contains device = false → G.rearm device c.tasks

/-- A change of what `Control` and `Registry` leave out, with telemetry only of devices that are
`touched` or had some before. -/
structure Quiet (touched : DeviceId → Prop) (s s' : Service) : Prop where
  control : s'.control = s.control
  registry : s'.registry = s.registry
  telemetry : TelemetryState.Confined (fun device => touched device ∨ s.telemetry.Known device) s.telemetry s'.telemetry

namespace Service

def Listed (s : Service) (u : TaskId) : Prop :=
  (∃ d, s.recoveries.get? d = some u) ∨ (∃ d, s.pollingTasks.get? d = some u) ∨
    ∃ task, s.tasks.get? u = some task ∧ task.frame.scheduled

inductive Selects (s : Service) : Frame → DeviceId → DiscoveredDevice → Prop
  | cached {call : Call} {row : DeviceRow} {candidate : DiscoveredDevice} (ha : call.action ≠ .disconnect)
      (h : s.candidates.get? row.discoveryId = some candidate) :
      Selects s (.procedure call row .lockConnect) call.device candidate
  | resolved {call : Call} {row : DeviceRow} {point : Point} {candidate : DiscoveredDevice}
      (ha : call.action ≠ .disconnect)
      (h : s.candidates.get? candidate.discoveryId = some candidate) (hi : candidate.identity = row.identity) :
      Selects s (.procedure call row point) call.device candidate

def Halted (s : Service) (frame : Frame) (call : Call) : Prop :=
  (∃ row point, frame = .procedure call row point) ∨ s.recoveries.get? call.device = none

def Unwanted (s : Service) (device : DeviceId) : Prop := ∀ auto, s.control.desire device ≠ some (.connected, auto)

/-- The moves of task `t` in a segment that starts with `task`; operations from `n` on are its own. -/
inductive Move (G : Guards) (t : TaskId) (task : Task) (n : OperationId) : Service → Service → Prop
  | quiet {s s' : Service} (h : Quiet (fun d => task.frame.role.touches d) s s') : Move G t task n s s'
  | acquire {s : Service} (h : s.ioLock = none) : Move G t task n s (s.acquire t)
  | release {s : Service} (h : s.ioLock = some t) : Move G t task n s s.release
  | unlink {s : Service} : Move G t task n s s.disconnectAdapter
  | link {s : Service} {call : Call} {row : DeviceRow} {candidate : DiscoveredDevice}
      (hf : task.frame = .procedure call row (.connecting candidate)) (hl : s.ioLock = some t) :
      Move G t task n s { s with adapter := s.adapter.connect ⟨call.device, candidate⟩ }
  | discover {s : Service} (results : List Advertisement) : Move G t task n s (s.discover results)
  | select {s : Service} {d : DeviceId} {c : DiscoveredDevice} (h : Selects s task.frame d c)
      (hc : task.cancelled = false) :
      Move G t task n s (s.updateDevice d (fun row => { row with discoveryId := c.discoveryId }))
  | connectCalled {s : Service} {d : DeviceId} {c : DiscoveredDevice} (h : Selects s task.frame d c)
      (hc : task.cancelled = false) : Move G t task n s (s.logConnect d c)
  | succeeded {s : Service} {call : Call} (h : task.frame.role = .procedure call) (hc : task.cancelled = false)
      (hb : Halted s task.frame call) (hd : call.action = .disconnect → s.Unwanted call.device) :
      Move G t task n s (s.log (.succeeded call.device call.action))
  | attempt {s : Service} (d : DeviceId) (hc : task.cancelled = false)
      (hw : s.control.Wanted d ∨ task.frame = .recovery d .sleeping ∧ G.wake d s.control) :
      Move G t task n s (s.logAttempt d)
  | create {s : Service} (d : DeviceId) (now : Time) (h : task.frame.role = .recovery d)
      (hc : task.cancelled = false) : Move G t task n s (s.newOperation .reconnect (some d) now)
  | mark {s : Service} {id : OperationId}
      (h : task.frame.role.operation = some id ∨ n ≤ id ∧ task.cancelled = false ∧ ∃ d, task.frame.role = .recovery d)
      (status : OperationStatus) (error : Option ErrorCode) (now : Time) (hl : s.control.Live id)
      (hs : status ≠ .queued) (he : error = none ↔ status ≠ .failed)
      (hb : task.cancelled = true → status = .failed ∧ error = some .interrupted ∧ ∀ call, task.frame ≠ .queued call) :
      Move G t task n s (s.markOperation id status error now)
  | event {s : Service} (id : OperationId) : Move G t task n s (s.scheduleEvent id)
  | scheduleRecovery {s : Service} (d : DeviceId) (immediate : Bool)
      (h : task.frame.role.executes d ∨ task.frame.role.polls d ∨ task.frame.role = .pollingFailed d)
      (hc : task.cancelled = false)
      (hd : ∀ call, task.frame.role = .procedure call →
        (∃ row point, task.frame = .procedure call row point) ∧ call.recovering = false ∧
          ¬ s.control.Live call.operation)
      (hg : task.frame.role.executes d = false → s.control.Rearms G d) :
      Move G t task n s (s.scheduleRecovery d immediate)
  | stopRecovery {s : Service} {u : TaskId} {call : Call} (hu : s.recoveries.get? call.device = some u)
      (h : task.frame.role = .procedure call) (hr : call.recovering = false) :
      Move G t task n s (s.stopRecovery call.device u)
  | stopPolling {s : Service} {d : DeviceId} {u : TaskId} (hu : s.pollingTasks.get? d = some u)
      (h : (∃ call, task.frame.role = .procedure call ∧ call.device = d) ∨ task.frame.role = .recovery d ∨
        task.frame.role = .deletion d)
      (hc : task.cancelled = false) : Move G t task n s (s.stopPolling d u)
  | connected {s : Service} {d : DeviceId} (h : task.frame.role.executes d) :
      Move G t task n s (s.setConnected (some d))
  | startPolling {s : Service} {d : DeviceId} (h : task.frame.role.executes d) (hd : s.connectedDevice = some d)
      (hc : task.cancelled = false) : Move G t task n s (s.startPolling d)
  | commit {s : Service} {call : Call} (observed : ConnectionState) (h : task.frame.role = .procedure call)
      (ha : call.action ≠ .disconnect) (hc : task.cancelled = false)
      (hg : call.recovering = true → G.commit call.device (s.control.desire call.device)) :
      Move G t task n s (s.setDesired call.device .connected observed)
  | disconnected {s : Service} {call : Call} (h : task.frame.role = .procedure call)
      (ha : call.action = .disconnect) (hb : Halted s task.frame call) :
      Move G t task n s (s.setDesired call.device .disconnected .disconnected)
  | releaseAdapter {s : Service} {call : Call} (id : DiscoveryId) (h : task.frame.role = .procedure call)
      (ha : call.action = .disconnect) (hk : s.adapter.client = none) (hl : s.ioLock = some t)
      (hg : G.release call.device s.control) (hb : Halted s task.frame call) :
      Move G t task n s ((s.releaseAdapter id).setDesired call.device .disconnected .disconnected)
  | record {s : Service} (d : DeviceId) (link : Link) (snapshot : DeviceSnapshot) (now : Time)
      (h : task.frame.role.executes d ∨ task.frame.role.polls d) (hf : task.frame.link = some link)
      (hc : task.cancelled = false) : Move G t task n s (s.record d snapshot link now)
  | remove {s : Service} {d : DeviceId} (now : Time) (h : task.frame.role = .deletion d)
      (hd : s.connectedDevice ≠ some d) (hg : G.remove d s.control) : Move G t task n s (s.removeDevice d now)
  | removeConnected {s : Service} {d : DeviceId} (now : Time) (h : task.frame.role = .deletion d)
      (hk : s.adapter.client = none) (hl : s.ioLock = some t) (hg : G.remove d s.control)
      (hg' : G.clear d s.control) : Move G t task n s ((s.release.setConnected none).removeDevice d now)
  | cancel {s : Service} {u : TaskId} (hu : s.Listed u) (h : task.frame.role = .closing) :
      Move G t task n s (s.cancel u)
  | clearRecoveries {s : Service} (h : task.frame.role = .closing)
      (hc : ∀ d u k, s.recoveries.get? d = some u → s.tasks.get? u = some k → k.Stopped) :
      Move G t task n s { s with recoveries := Dict.empty }
  | clearPolling {s : Service} (h : task.frame.role = .closing)
      (hc : ∀ d u k, s.pollingTasks.get? d = some u → s.tasks.get? u = some k → k.Stopped) :
      Move G t task n s { s with pollingTasks := Dict.empty }
  | interruptOperations {s : Service} (now : Time) (h : task.frame.role = .closing) :
      Move G t task n s { s with store := s.store.interruptOperations now }
  | shut {s : Service} (h : task.frame = .closing .disconnecting) : Move G t task n s { s with closed := true }

inductive Relieved (G : Guards) (role : Role) (c : Control) (d : DeviceId) : Prop
  | unwanted (h : ¬ c.Wanted d)
  | recovered (hr : role.recovers d = false) (h : c.recoveries.contains d)
  | found (hr : role.supports d = false) (h : G.found d c.tasks)
  | polled (hr : role.polls d = false)
      (h : ∃ u task, c.tasks.get? u = some task ∧ task.frame.role = .polling d ∧ task.cancelled = false)

def Released (G : Guards) (c : Control) (role : Role) : Prop :=
  match role with
  | .procedure call => Relieved G role c call.device
  | .recovery d => Relieved G role c d
  | .polling d => Relieved G role c d ∨ c.connectedDevice ≠ some d
  | .pollingFailed d => Relieved G role c d
  | .deletion d => c.desire d = none
  | _ => True

/-- A procedure goes on with its row, or has just read it; a requested one has stopped recovery then. -/
def Begun (s : Service) (frame : Frame) (call : Call) (row : DeviceRow) : Prop :=
  (∃ point, frame = .procedure call row point) ∨
    s.registry.rows call.device = some row.selection ∧ (call.recovering = false → s.recoveries.get? call.device = none)

theorem Begun.halted {s : Service} {frame : Frame} {call : Call} {row : DeviceRow} (h : Begun s frame call row)
    (hr : call.recovering = false) : Halted s frame call :=
  h.imp (fun ⟨point, hf⟩ => ⟨row, point, hf⟩) (fun h => h.2 hr)

structure Suspends (t : TaskId) (task : Task) (n : OperationId) (s : Service) (frame : Frame) : Prop where
  role : Role.Handover n task.frame.role frame.role
  lock : frame.holdsLock = true → s.ioLock = some t
  cut : frame.disconnecting = true → s.adapter.client = none
  link : ∀ l, frame.link = some l → s.adapter.client = some l
  valid : frame.Valid
  pending : s.control.Accounted frame.role
  row : ∀ call row point, frame = .procedure call row point → Begun s task.frame call row
  wanted : ∀ d, frame = .recovery d .sleeping → s.control.Wanted d
  begun : ∀ call, frame ≠ .queued call

inductive Park (G : Guards) (t : TaskId) (task : Task) (n : OperationId) : Service → Service → Prop
  | suspend {s : Service} (frame : Frame) (h : Suspends t task n s frame) (hc : task.cancelled = false) :
      Park G t task n s (s.suspend t frame)
  | done {s : Service} (hr : ∀ d, task.frame.role.recovers d = false)
      (hp : ∀ d, task.frame.role ≠ .polling d ∧ task.frame.role ≠ .pollingFailed d)
      (h : task.cancelled = false → Released G s.control task.frame.role)
      (hq : task.cancelled = false → ∀ call, task.frame = .queued call →
        s.recoveries.get? call.device = none ∨ s.store.device call.device = none) :
      Park G t task n s (s.endTask t)
  | recovery {s : Service} {d : DeviceId} (hr : task.frame.role.recovers d)
      (h : task.cancelled = false → Released G s.control task.frame.role) : Park G t task n s (s.endRecovery t d)
  | polling {s : Service} {d : DeviceId} (hr : task.frame.role = .polling d ∨ task.frame.role = .pollingFailed d)
      (h : task.cancelled = false → Released G s.control task.frame.role) : Park G t task n s (s.endPolling t d)

def Segment (G : Guards) (t : TaskId) (task : Task) (n : OperationId) (s s' : Service) : Prop :=
  ∃ m, ReflTransGen (Move G t task n) s m ∧ Park G t task n m s'

inductive Request (G : Guards) : Service → Service → Prop
  | quiet {s s' : Service} (h : Quiet (fun d => (s.store.device d).isSome) s s') : Request G s s'
  | unlink {s : Service} : Request G s s.disconnectAdapter
  | startScan {s : Service} (now : Time) (hc : s.closing = false) (hg : G.scan s.store.operations) :
      Request G s ((s.newOperation .scan none now).spawn (.scan (.starting s.nextOperation)))
  | register {s : Service} (row : DeviceRow) (hn : s.store.device row.deviceId = none)
      (hd : row.desiredState = .disconnected) (hg : G.keep row.deviceId (some (.disconnected, row.autoReconnect)))
      (hc : ∃ c, s.candidates.get? row.discoveryId = some c ∧ row.identity = c.identity)
      (hi : ∀ i, row.identity = some i → ∀ other ∈ s.store.devices.values, other.identity ≠ some i)
      (hx : G.register row.deviceId s.tasks) :
      Request G s (({ s with store := s.store.saveDevice row, trace := .registered row.deviceId :: s.trace }.viewDevice
        row.deviceId).spawn (.registerHeartbeat row.deviceId .disconnected))
  | patch {s : Service} (d : DeviceId) (patch : DevicePatch) (candidate : Option DiscoveredDevice)
      (hg : G.keep d ((s.updateDevice d (patchRow patch candidate)).control.desire d))
      (hs : s.selectIdentity d patch.discoveryId = .ok candidate) (hx : G.patch d patch s.tasks) :
      Request G s (s.updateDevice d (patchRow patch candidate))
  | deleteRecovering {s : Service} {d : DeviceId} {u : TaskId} (hp : s.pendingOperation d = none)
      (hu : s.recoveries.get? d = some u) :
      Request G s ((s.stopRecovery d u).spawn (.deletion d (.stoppingRecovery u)))
  | deletePolling {s : Service} {d : DeviceId} {u : TaskId} (hp : s.pendingOperation d = none)
      (hu : s.pollingTasks.get? d = some u) :
      Request G s ((s.stopPolling d u).spawn (.deletion d (.stoppingPolling [] u)))
  | deleteConnected {s : Service} {d : DeviceId} (hp : s.pendingOperation d = none) :
      Request G s (s.spawn (.deletion d (.lock [])))
  | delete {s : Service} {d : DeviceId} (now : Time) (hp : s.pendingOperation d = none)
      (hr : s.recoveries.get? d = none) (hd : s.connectedDevice ≠ some d) (hg : G.remove d s.control) : Request G s
        (s.removeDevice d now)
  | join {s : Service} {d : DeviceId} {action : ConnectionAction} {row : OperationRow}
      (hp : s.pendingOperation d = some row) (hk : row.kind = action.kind) :
      Request G s (s.log (.accepted d action))
  | accept {s : Service} {d : DeviceId} (action : ConnectionAction) (now : Time)
      (hd : (s.store.device d).isSome) (hp : s.pendingOperation d = none)
      (ho : action = .disconnect ∨ s.owner = none ∨ s.owner = some d) (hc : s.closing = false) :
      Request G s (s.accept d action now)
  | close {s : Service} (hc : s.closing = false) : Request G s s.close
  | adopt {s : Service} {d : DeviceId} (ho : s.owner = none)
      (ht : ∀ u task call, s.tasks.get? u = some task → task.frame.role ≠ .procedure call) :
      Request G s ({ s with owner := some d }.scheduleRecovery d true)

inductive Evolves (G : Guards) : Service → Service → Prop
  | segment {s s' : Service} {t : TaskId} {task : Task} {outcome : Outcome} {now clock : Time}
      (hk : s.tasks.get? t = some task) (hs : s.resume t outcome now clock = some s')
      (hG : G.Promised s (.resume t outcome now clock)) (h : Segment G t task s.nextOperation s s') : Evolves G s s'
  | request {s s' : Service} (h : ReflTransGen (Request G) s s') : Evolves G s s'
  | restart {s s' : Service} (now : Time) (h : ReflTransGen (Request G) (s.successor.startDiscovery now) s') :
      Evolves G s s'

end Service

end PitbluCore
