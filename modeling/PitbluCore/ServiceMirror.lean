import PitbluCore.ServicePolling
import PitbluCore.TelemetryConnections

namespace PitbluCore

open Library

def ConnectionAction.failed (action : ConnectionAction) : ConnectionState :=
  if action = .disconnect then .disconnected else .backoff

@[ext] structure Mirror where
  stored : Option ConnectionState
  recorded : Bool
  events : List EventData

namespace Mirror

def shown (mark : ℕ) (m : Mirror) : Option EventData := if mark < m.events.length then m.events.head? else none

def store (state : ConnectionState) (m : Mirror) : Mirror := { m with stored := m.stored.map (fun _ => state) }

def observe (state : ConnectionState) (m : Mirror) : Mirror :=
  { m.store state with events := if m.recorded then connectionData state :: m.events else m.events }

def record (newer : Bool) (m : Mirror) : Mirror :=
  { m with recorded := true, events := if newer then connectionData .polling :: m.events else m.events }

def Agrees (mark : ℕ) (m : Mirror) : Prop :=
  ∀ state data, m.stored = some state → m.shown mark = some data → data = connectionData state

/-- Agreement, for which a device that shows a state needs a snapshot. -/
structure Holds (mark : ℕ) (m : Mirror) : Prop where
  agrees : m.Agrees mark
  recorded : m.stored.isSome → (m.shown mark).isSome → m.recorded = true

def Shows (mark : ℕ) (state : ConnectionState) (m : Mirror) : Prop :=
  m.stored.isSome → ∀ data ∈ m.shown mark, data = connectionData state

def Keeps (state : ConnectionState) (m : Mirror) : Prop := ∀ stored ∈ m.stored, stored = state

variable {mark : ℕ} {m : Mirror} {state : ConnectionState}

theorem shown_cons {data shown : EventData} {events : List EventData} {stored : Option ConnectionState}
    {recorded : Bool} (h : shown ∈ (Mirror.mk stored recorded (data :: events)).shown mark) : shown = data := by
  unfold Mirror.shown at h
  split at h
  · exact (Option.some.inj h).symm
  · cases h

theorem Holds.of_shown (h : m.shown mark = none) : m.Holds mark := by
  refine ⟨fun state data _ hd => ?_, fun _ hs => ?_⟩
  · rw [h] at hd
    cases hd
  · rw [h] at hs
    cases hs

theorem Holds.of_stored (h : m.stored = none) : m.Holds mark := by
  refine ⟨fun state data hs _ => ?_, fun hs _ => ?_⟩ <;>
  · rw [h] at hs
    cases hs

theorem stored_store_isSome (state : ConnectionState) (m : Mirror) :
    (m.store state).stored.isSome = m.stored.isSome := by
  rw [Mirror.store, Option.isSome_map]

theorem Holds.store (h : m.Holds mark) (hs : m.Shows mark state) : (m.store state).Holds mark := by
  refine ⟨fun state' data hst hd => ?_, fun hst hd => ?_⟩
  · obtain ⟨old, hold, rfl⟩ := Option.map_eq_some_iff.mp hst
    exact hs (by simp [hold]) data hd
  · rw [stored_store_isSome] at hst
    exact h.recorded hst hd

theorem observe_holds (h : m.recorded = true) : (m.observe state).Holds mark := by
  refine ⟨fun state' data hst hd => ?_, fun _ _ => h⟩
  obtain ⟨old, hold, rfl⟩ := Option.map_eq_some_iff.mp hst
  simp only [observe, h, ↓reduceIte] at hd
  exact shown_cons hd

theorem Holds.observe (h : m.Holds mark) : (m.observe state).Holds mark := by
  cases hr : m.recorded with
  | true => exact observe_holds hr
  | false =>
    have he : m.observe state = m.store state := by simp [Mirror.observe, Mirror.store, hr]
    rw [he]
    refine h.store (fun hs data hd => ?_)
    rw [h.recorded hs (Option.isSome_of_mem hd)] at hr
    cases hr

theorem record_newer_holds (hk : m.Keeps .polling) : (m.record true).Holds mark := by
  refine ⟨fun state data hs hd => ?_, fun _ _ => rfl⟩
  rw [shown_cons hd, hk state hs]

theorem Holds.record_older (h : m.Holds mark) : (m.record false).Holds mark := ⟨h.agrees, fun _ _ => rfl⟩

theorem store_keeps : (m.store state).Keeps state := by
  intro stored hs
  obtain ⟨old, -, rfl⟩ := Option.map_eq_some_iff.mp hs
  rfl

theorem record_store (newer : Bool) : (m.record newer).store state = (m.store state).record newer := rfl

theorem Holds.record_polling (h : m.Holds mark) {newer : Bool} (hs : newer = false → m.Shows mark .polling) :
    ((m.record newer).store .polling).Holds mark := by
  rw [record_store]
  cases newer with
  | true => exact record_newer_holds store_keeps
  | false => exact (h.store (hs rfl)).record_older

end Mirror

namespace Service

variable (s : Service)

def mirror (device : DeviceId) : Mirror :=
  ⟨s.observed device, (s.telemetry.current.get? device).isSome, s.telemetry.connections device⟩

variable {s s' : Service} {t : TaskId} {call : Call} {row : DeviceRow} {now : Time}

theorem mirror_telemetry {T : TelemetryState} (h : s.telemetry.SameConnections T) :
    { s with telemetry := T }.mirror = s.mirror := by
  funext d
  exact Mirror.ext rfl (h.current d) (congrFun h.connections d)

section Frame

variable (s)

@[simp] theorem mirror_spawn (f : Frame) : (s.spawn f).mirror = s.mirror := rfl

@[simp] theorem mirror_suspend (f : Frame) : (s.suspend t f).mirror = s.mirror := rfl

@[simp] theorem mirror_await (point : Point) : (s.await t call row point).mirror = s.mirror := rfl

@[simp] theorem mirror_endTask : (s.endTask t).mirror = s.mirror := rfl

@[simp] theorem mirror_acquire : (s.acquire t).mirror = s.mirror := rfl

@[simp] theorem mirror_release : s.release.mirror = s.mirror := rfl

@[simp] theorem mirror_log (item : TraceItem) : (s.log item).mirror = s.mirror := rfl

@[simp] theorem mirror_logConnect (d : DeviceId) (c : DiscoveredDevice) : (s.logConnect d c).mirror = s.mirror := rfl

@[simp] theorem mirror_setConnected (d : Option DeviceId) : (s.setConnected d).mirror = s.mirror := rfl

@[simp] theorem mirror_noteFailure (stage : Stage) (e : Failure) : (s.noteFailure stage e).mirror = s.mirror := rfl

@[simp] theorem mirror_noteError (e : LastError) : (s.noteError e).mirror = s.mirror := rfl

@[simp] theorem mirror_clearFailure : s.clearFailure.mirror = s.mirror := rfl

@[simp] theorem mirror_releaseAdapter (id : DiscoveryId) : (s.releaseAdapter id).mirror = s.mirror := rfl

@[simp] theorem mirror_discover (results : List Advertisement) : (s.discover results).mirror = s.mirror := rfl

@[simp] theorem mirror_nextDelay (d : DeviceId) : (s.nextDelay d).mirror = s.mirror := rfl

@[simp] theorem mirror_newOperation (kind : OperationKind) (d : Option DeviceId) (now : Time) :
    (s.newOperation kind d now).mirror = s.mirror := rfl

@[simp] theorem mirror_endRecovery (d : DeviceId) : (s.endRecovery t d).mirror = s.mirror := rfl

@[simp] theorem mirror_endPolling (d : DeviceId) : (s.endPolling t d).mirror = s.mirror := rfl

@[simp] theorem mirror_cancelAll (ts : List TaskId) : (s.cancelAll ts).mirror = s.mirror := by
  induction ts generalizing s with
  | nil => rfl
  | cons u ts ih => exact ih (s.cancel u)

@[simp] theorem mirror_markOperation (id : OperationId) (status : OperationStatus) (error : Option ErrorCode) :
    (s.markOperation id status error now).mirror = s.mirror := by
  unfold markOperation
  split <;> rfl

@[simp] theorem mirror_markRunning (id : OperationId) (now : Time) : (s.markRunning id now).mirror = s.mirror :=
  mirror_markOperation s id _ _

@[simp] theorem mirror_markInterrupted (id : OperationId) : (s.markInterrupted id now).mirror = s.mirror :=
  mirror_markOperation s id _ _

@[simp] theorem mirror_scheduleEvent (id : OperationId) : (s.scheduleEvent id).mirror = s.mirror := by
  unfold scheduleEvent
  split <;> rfl

@[simp] theorem mirror_finish (id : OperationId) (failed : Bool) : (s.finish id failed now).mirror = s.mirror := by
  unfold finish
  cases failed <;> simp

@[simp] theorem mirror_scheduleRecovery (d : DeviceId) (immediate : Bool) :
    (s.scheduleRecovery d immediate).mirror = s.mirror := by
  unfold scheduleRecovery
  split <;> rfl

@[simp] theorem mirror_recoverNext (d : DeviceId) : (s.recoverNext t d).mirror = s.mirror := by
  unfold recoverNext
  split <;> simp

@[simp] theorem mirror_leave (succeeded : Bool) : (s.leave t call succeeded).mirror = s.mirror := by
  unfold leave
  split
  · simp
  · split <;> simp

@[simp] theorem mirror_complete : (s.complete t call now).mirror = s.mirror := by
  unfold complete
  simp

@[simp] theorem mirror_startPolling (d : DeviceId) : (s.startPolling d).mirror = s.mirror := by
  unfold startPolling
  split <;> rfl

@[simp] theorem mirror_deletePolling (d : DeviceId) (ts : List TaskId) :
    (s.deletePolling d ts).1.mirror = s.mirror := by
  unfold deletePolling
  split <;> rfl

@[simp] theorem mirror_pollNext (d : DeviceId) (poll : PollState) : (s.pollNext t d poll).mirror = s.mirror := by
  unfold pollNext
  split <;> rfl

@[simp] theorem mirror_expectHeartbeat (d : DeviceId) (now : Time) : (s.expectHeartbeat d now).mirror = s.mirror :=
  mirror_telemetry (.of_beat (TelemetryState.heartbeatExpected_beat s.telemetry d now))

@[simp] theorem mirror_viewDevice (d : DeviceId) : (s.viewDevice d).mirror = s.mirror :=
  mirror_telemetry (.of_beat (TelemetryState.ensureHeartbeat_beat s.telemetry d s.adapter.source))

@[simp] theorem mirror_registerHeartbeat (d : DeviceId) (desired : DesiredState) :
    (s.registerHeartbeat d desired now).mirror = s.mirror := by
  have hr := TelemetryState.registerHeartbeat_beat s.telemetry d s.adapter.source now
  unfold registerHeartbeat
  dsimp only
  split
  · exact mirror_telemetry (.of_beat (hr.trans (TelemetryState.heartbeatDisconnected_beat _ d now)))
  · exact mirror_telemetry (.of_beat hr)

@[simp] theorem mirror_publishOperation (r : OperationRow) : (s.publishOperation r now).mirror = s.mirror := by
  funext d
  refine Mirror.ext rfl rfl ?_
  simp [mirror, publishOperation, TelemetryState.connections, EventBus.publish, TelemetryEvent.key]

theorem mirror_updateDevice (d : DeviceId) {f : DeviceRow → DeviceRow}
    (hf : ∀ r, (f r).observedState = r.observedState) : (s.updateDevice d f).mirror = s.mirror := by
  funext d'
  refine Mirror.ext ?_ rfl rfl
  change ((s.store.updateDevice d f).device d').map _ = _
  rw [AdministrativeStore.device_updateDevice]
  split
  · rename_i h
    subst h
    simp only [Option.map_map, mirror, observed]
    exact congrArg (fun g => Option.map g _) (funext hf)
  · rfl

end Frame

section Writes

variable (s)

theorem mirror_setObserved (d : DeviceId) (state : ConnectionState) :
    (s.setObserved d state).mirror = Function.update s.mirror d ((s.mirror d).store state) := by
  funext d'
  by_cases hd : d' = d
  · subst hd
    rw [Function.update_self]
    refine Mirror.ext ?_ rfl rfl
    simp only [mirror, observed, setObserved, updateDevice, Mirror.store, AdministrativeStore.device_updateDevice,
      ↓reduceIte, Option.map_map]
    rfl
  · rw [Function.update_of_ne hd]
    refine Mirror.ext ?_ rfl rfl
    simp [mirror, observed, setObserved, updateDevice, hd]

theorem mirror_setDesired (d : DeviceId) (desired : DesiredState) (state : ConnectionState) :
    (s.setDesired d desired state).mirror = Function.update s.mirror d ((s.mirror d).store state) := by
  rw [← mirror_setObserved]
  funext d'
  refine Mirror.ext ?_ rfl rfl
  simp only [mirror, observed, setObserved, setDesired, updateDevice, AdministrativeStore.device_updateDevice]
  split
  · rw [Option.map_map, Option.map_map]
    rfl
  · rfl

theorem mirror_observe (d : DeviceId) (state : ConnectionState) :
    (s.observe d state now).mirror = Function.update s.mirror d ((s.mirror d).observe state) := by
  have ho := mirror_setObserved s d state
  funext d'
  refine Mirror.ext ?_ ?_ ?_
  · refine (congrArg Mirror.stored (congrFun ho d')).trans ?_
    by_cases hd : d' = d <;> simp [Function.update_apply, hd, Mirror.observe]
  · refine (TelemetryState.connection_current s.telemetry d now state d').trans ?_
    by_cases hd : d' = d <;> simp [Function.update_apply, hd, Mirror.observe, Mirror.store, mirror]
  · refine (TelemetryState.connection_connections s.telemetry d now state d').trans ?_
    by_cases hd : d' = d
    · subst hd
      by_cases hr : (s.telemetry.current.get? d').isSome <;> simp [Mirror.observe, mirror, Mirror.store, hr]
    · simp [Function.update_of_ne, hd, mirror]

theorem mirror_record (d : DeviceId) (snapshot : DeviceSnapshot) (link : Link) (now : Time) :
    (s.record d snapshot link now).mirror =
    Function.update s.mirror d ((s.mirror d).record (s.telemetry.newer d snapshot)) := by
  funext d'
  refine Mirror.ext ?_ ?_ ?_
  · by_cases hd : d' = d <;> simp [Function.update_apply, hd, Mirror.record, mirror, observed, Service.record]
  · refine (TelemetryState.record_current s.telemetry d snapshot now d').trans ?_
    by_cases hd : d' = d <;> simp [Function.update_apply, hd, Mirror.record, mirror]
  · refine (TelemetryState.record_connections s.telemetry d snapshot now d').trans ?_
    by_cases hd : d' = d <;> simp [Function.update_apply, hd, Mirror.record, mirror]

theorem mirror_removeDevice (d : DeviceId) (now : Time) : ∃ m : Mirror, m.stored = none ∧
    (s.removeDevice d now).mirror = Function.update s.mirror d m := by
  refine ⟨(s.removeDevice d now).mirror d, ?_, funext (fun d' => ?_)⟩
  · simp [mirror, observed, removeDevice]
  · by_cases hd : d' = d
    · rw [hd, Function.update_self]
    · obtain ⟨hc, hs⟩ := TelemetryState.remove_other s.telemetry d now hd
      rw [Function.update_of_ne hd]
      refine Mirror.ext ?_ hs hc
      simp [mirror, observed, removeDevice, hd]

theorem mirror_fail (stage : Stage) (e : Failure) : (s.fail t call stage e now).mirror =
    Function.update s.mirror call.device ((s.mirror call.device).store call.action.failed) := by
  unfold fail
  dsimp only
  rw [mirror_leave]
  split <;> simp [mirror_setObserved, ConnectionAction.failed]

theorem mirror_disconnectDevice : (s.disconnectDevice t call now).mirror =
    Function.update s.mirror call.device ((s.mirror call.device).observe .disconnected) := by
  have hh := TelemetryState.heartbeatDisconnected_beat
    (s.telemetry.connection call.device .disconnected now) call.device now
  have ho := mirror_telemetry (s := s.observe call.device .disconnected now) (.of_beat hh)
  unfold disconnectDevice
  rw [mirror_complete, ← mirror_observe s call.device .disconnected, ← ho, mirror_setDesired, ← mirror_setObserved]
  rfl

theorem mirror_establish (link : Link) (snapshot : DeviceSnapshot) : (s.establish call link snapshot now).mirror =
    Function.update s.mirror call.device
      (((s.mirror call.device).record (s.telemetry.newer call.device snapshot)).store .polling) := by
  have ho : observedConnected (call.action = .reconnect) = .polling := by
    rw [observedConnected, ConnectionStateMachine.connected_eq]
    rfl
  unfold establish
  dsimp only
  rw [mirror_setDesired, mirror_startPolling, mirror_clearFailure, mirror_setConnected, mirror_record, mirror_release,
    ho, Function.update_self, Function.update_idem]
  rfl

end Writes

end Service

end PitbluCore
