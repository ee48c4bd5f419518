import PitbluCore.ServiceProcedures

namespace PitbluCore

open Library

theorem ConnectionAction.desired_of_ne {action : ConnectionAction} (h : action ≠ .disconnect) :
    action.desired = .connected := by
  cases action <;> first | rfl | exact absurd rfl h

namespace Service

variable {s s' : Service} {t : TaskId} {task : Task} {n : OperationId} {d : DeviceId}

/-- What the last command accepted for the device since its registration asks for; before them stands
what the store of the first session said. -/
def lastWord (words : DeviceId → DesiredState) (device : DeviceId) : List TraceItem → DesiredState
  | [] => words device
  | .registered d :: trace => if d = device then .disconnected else lastWord words device trace
  | .accepted d action :: trace => if d = device then action.desired else lastWord words device trace
  | _ :: trace => lastWord words device trace

def StartedOn (words : DeviceId → DesiredState) (s : Service) : Prop :=
  Started s ∧ ∀ d row, s.store.device d = some row → row.desiredState = words d

/-- A recovery attempt succeeds while the device is to be connected, and a device is deleted while no
request for it is pending. -/
structure Heeds (s : Service) (a : Action) : Prop where
  commit : ∀ d, s.commits a = some d → ∀ row, s.store.device d = some row → row.desiredState = .connected
  remove : ∀ d, s.removes a = some d → s.pendingOperation d = none

instance (s : Service) (a : Action) : Decidable (s.Heeds a) :=
  decidable_of_iff ((∀ d ∈ s.commits a, ∀ row ∈ s.store.device d, row.desiredState = .connected) ∧
    ∀ d ∈ s.removes a, s.pendingOperation d = none) ⟨fun h => ⟨h.1, h.2⟩, fun h => ⟨h.commit, h.remove⟩⟩

def desireGuards : Guards where
  remove d c := c.pendingOperation d = none
  commit _ p := ∀ desired auto, p = some (desired, auto) → desired = .connected

theorem desire_some {desired : DesiredState} {auto : Bool} (h : s.control.desire d = some (desired, auto)) :
    ∃ row, s.store.device d = some row ∧ row.desiredState = desired := by
  obtain ⟨row, hrow, he⟩ := Option.map_eq_some_iff.mp h
  exact ⟨row, hrow, (Prod.mk.inj he).1⟩

theorem Heeds.promised {a : Action} (h : s.Heeds a) : desireGuards.Promised s a where
  remove := h.remove
  commit d hd desired auto hp := by
    obtain ⟨row, hrow, rfl⟩ := desire_some hp
    exact h.commit d hd row hrow

def Heard (words : DeviceId → DesiredState) (s : Service) (call : Call) : Prop :=
  (s.control.desire call.device).isSome ∧ lastWord words call.device s.trace = call.action.desired

structure Intent (words : DeviceId → DesiredState) (s : Service) : Prop where
  procedures : s.Procedures
  word : ∀ d desired auto, s.control.desire d = some (desired, auto) → desired = lastWord words d s.trace
  pending : ∀ d row, s.pendingOperation d = some row →
    (s.control.desire d).isSome ∧ ∃ action : ConnectionAction, row.kind = action.kind ∧
      lastWord words d s.trace = action.desired
  requests : s.Each (fun task => ∀ call, task.frame.role = .procedure call → call.recovering = false →
    s.Heard words call)

variable {words : DeviceId → DesiredState}

section Fields

theorem lastWord_move {G : Guards} (hm : Move G t task n s s') (d : DeviceId) :
    lastWord words d s'.trace = lastWord words d s.trace := by
  cases hm with
  | quiet hq => rw [show s'.trace = s.trace from congrArg Control.trace hq.control]
  | mark _ status error now => rw [(steady_markOperation _ status error now).trace]
  | event id => rw [(steady_scheduleEvent id).trace]
  | scheduleRecovery d immediate => rw [(steady_scheduleRecovery d immediate).trace]
  | startPolling => rw [(steady_startPolling _).trace]
  | _ => rfl

theorem pendingOperation_markOperation {id : OperationId} (hl : s.control.Live id) {status : OperationStatus}
    {error : Option ErrorCode} {now : Time} {row : OperationRow}
    (h : (s.markOperation id status error now).pendingOperation d = some row) :
    ∃ old, s.pendingOperation d = some old ∧ row.kind = old.kind := by
  obtain ⟨old, hold, hid, hpending⟩ := hl
  have hold' : s.operations.get? id = some old := hold
  simp only [markOperation, hold', pendingOperation, saveOperation] at h ⊢
  obtain ⟨hrow, hlive⟩ := Option.filter_eq_some_iff.mp h
  obtain ⟨j, hj, hrow⟩ := Option.bind_eq_some_iff.mp hrow
  rw [hid, Dict.get?_set] at hrow
  split at hrow
  · rename_i he
    subst he
    obtain rfl := Option.some.inj hrow
    exact ⟨old, by simp [hj, hold', hpending], rfl⟩
  · exact ⟨row, by simp [hj, hrow, hlive], rfl⟩

theorem pendingOperation_newOperation {kind : OperationKind} {device : Option DeviceId} {now : Time}
    (ha : ∀ j, s.active.get? d = some j → j < s.nextOperation) :
    (s.newOperation kind device now).pendingOperation d = s.pendingOperation d := by
  unfold pendingOperation newOperation saveOperation
  dsimp only
  cases hj : s.active.get? d with
  | none => rfl
  | some j => simp [(ha j hj).ne]

theorem pendingOperation_same (ho : s'.operations = s.operations) (ha : s'.active = s.active) (d : DeviceId) :
    s'.pendingOperation d = s.pendingOperation d := by
  unfold pendingOperation
  rw [ho, ha]

theorem pendingOperation_move {G : Guards} (hc : s.control.Coherent (some t) n) (hm : Move G t task n s s')
    {row : OperationRow} (h : s'.pendingOperation d = some row) :
    ∃ old, s.pendingOperation d = some old ∧ row.kind = old.kind := by
  have ha := active_move hm
  have hsame : s'.operations = s.operations → ∃ old, s.pendingOperation d = some old ∧ row.kind = old.kind :=
    fun ho => ⟨row, by rw [← pendingOperation_same ho ha d]; exact h, rfl⟩
  cases hm with
  | quiet hq => exact hsame (congrArg Control.operations hq.control)
  | mark _ status error now hl => exact pendingOperation_markOperation hl h
  | create d' now =>
    rw [pendingOperation_newOperation (fun j hj => (hc.active d j hj).trans_le hc.bound)] at h
    exact ⟨row, h, rfl⟩
  | event id => exact hsame (operations_scheduleEvent id)
  | scheduleRecovery d' immediate => exact hsame (operations_scheduleRecovery d' immediate)
  | startPolling => exact hsame (startPolling_operations _)
  | _ => exact hsame rfl

end Fields

section Moves

theorem Intent.keep (h : s.Intent words) (hp : s'.Procedures)
    (hd : ∀ d, (s'.control.desire d).map Prod.fst = (s.control.desire d).map Prod.fst)
    (ht : ∀ d, lastWord words d s'.trace = lastWord words d s.trace)
    (hpend : ∀ d row, s'.pendingOperation d = some row → ∃ old, s.pendingOperation d = some old ∧ row.kind = old.kind)
    (hr : s'.Each (fun task => ∀ call, task.frame.role = .procedure call → call.recovering = false →
    s.Heard words call)) :
    s'.Intent words := by
  have hreg : ∀ d, (s.control.desire d).isSome → (s'.control.desire d).isSome := by
    intro d hs
    rw [← Option.isSome_map, hd d, Option.isSome_map]
    exact hs
  refine ⟨hp, fun d desired auto hdes => ?_, fun d row hrow => ?_, hr.imp (fun k hk call hrole hrec => ?_)⟩
  · have hfst := hd d
    rw [hdes] at hfst
    obtain ⟨p, hp, he⟩ := Option.map_eq_some_iff.mp hfst.symm
    cases he
    rw [ht]
    exact h.word d p.1 p.2 hp
  · obtain ⟨old, hold, hkind⟩ := hpend d row hrow
    obtain ⟨hsome, action, ha, hlast⟩ := h.pending d old hold
    exact ⟨hreg d hsome, action, hkind.trans ha, (ht d).trans hlast⟩
  · obtain ⟨hsome, hlast⟩ := hk call hrole hrec
    exact ⟨hreg _ hsome, (ht _).trans hlast⟩

theorem Intent.setDesired (h : s.Intent words) {desired : DesiredState} {observed : ConnectionState}
    (hw : ∀ old auto, s.control.desire d = some (old, auto) → desired = old) :
    (s.setDesired d desired observed).Intent words := by
  refine h.keep ⟨h.procedures.enlisted, h.procedures.tabled⟩ (fun d' => ?_) (fun _ => rfl)
    (fun _ row hrow => ⟨row, hrow, rfl⟩) h.requests
  rw [desire_setDesired]
  split
  · rename_i hd
    subst hd
    cases hdes : s.control.desire d' with
    | none => rfl
    | some p =>
      rw [hw p.1 p.2 hdes]
      rfl
  · rfl

theorem Intent.disconnected (h : s.Intent words) (hv : task.frame.Valid) (hk : s.tasks.get? t = some task) {call : Call}
    (hr : task.frame.role = .procedure call) (ha : call.action = .disconnect) :
    (s.setDesired call.device .disconnected .disconnected).Intent words := by
  refine h.setDesired (fun old auto hdes => ?_)
  rw [h.word _ old auto hdes, (h.requests t task hk call hr (Frame.requested_of_disconnect hv hr ha)).2, ha]
  rfl

theorem Intent.removeDevice (h : s.Intent words) (hp : s.pendingOperation d = none)
    (hq : ∀ u k, s.tasks.get? u = some k → k.frame.role.requests d = false) (now : Time) :
    (s.removeDevice d now).Intent words := by
  refine ⟨⟨h.procedures.enlisted, h.procedures.tabled⟩, fun d' desired auto hdes => ?_, fun d' row hrow => ?_,
    h.requests.imp_of_mem (fun u k hk hheard call hr hrec => ?_)⟩
  · rw [desire_removeDevice] at hdes
    exact h.word d' desired auto (Option.ite_none_left_eq_some.mp hdes).2
  · have hd : d' ≠ d := by
      rintro rfl
      cases hp.symm.trans hrow
    rw [desire_removeDevice, if_neg hd]
    exact h.pending d' row hrow
  · have hd : call.device ≠ d := by
      rintro rfl
      have hidle := hq u k hk
      simp [hr, Role.requests, hrec] at hidle
    obtain ⟨hreg, hlast⟩ := hheard call hr hrec
    refine ⟨?_, hlast⟩
    rw [desire_removeDevice, if_neg hd]
    exact hreg

theorem not_request_of_deletion (hc : s.control.Coherent (some t) n) (hk : s.tasks.get? t = some task)
    (h : s.Each (Task.Enlisted s.active)) (hr : task.frame.role = .deletion d) (hp : s.pendingOperation d = none)
    {u : TaskId}
    {k : Task} (hu : s.tasks.get? u = some k) : k.frame.role.requests d = false := by
  by_cases hut : u = t
  · subst hut
    obtain rfl : k = task := Option.some.inj (hu.symm.trans hk)
    rw [hr]
    rfl
  · exact not_request_of_idle hc h (by simpa using fun he => hut he.symm) hp hu

theorem Intent.move (hc : s.control.Coherent (some t) n) (hk : s.tasks.get? t = some task) (h : s.Intent words)
    (hm : Move desireGuards t task n s s') : s'.Intent words := by
  have hp := h.procedures.move hm
  have ht : ∀ d, lastWord words d s'.trace = lastWord words d s.trace := fun d => lastWord_move hm d
  have hpend : ∀ d row, s'.pendingOperation d = some row → ∃ old, s.pendingOperation d = some old ∧
      row.kind = old.kind :=
    fun d row hrow => pendingOperation_move hc hm hrow
  have hr : s'.Each (fun task => ∀ call, task.frame.role = .procedure call → call.recovering = false →
      s.Heard words call) := by
    refine h.requests.move hm (fun k hk call hr => hk call (by rwa [Task.cancel_frame] at hr)) (fun f hf call hr => ?_)
    cases hf <;> cases hr
  have hd : s'.control.desire = s.control.desire →
      ∀ d, (s'.control.desire d).map Prod.fst = (s.control.desire d).map Prod.fst := by
    intro he d
    rw [he]
  cases hm with
  | @commit call observed hrole ha hlive hg =>
    refine h.setDesired (fun old auto hdes => ?_)
    cases hrec : call.recovering with
    | true => exact (hg hrec old auto hdes).symm
    | false =>
      have hlast := (h.requests t task hk call hrole hrec).2
      rw [h.word _ old auto hdes, hlast, ConnectionAction.desired_of_ne ha]
  | @disconnected call hrole ha hb => exact h.disconnected (hc.tasks t task hk).valid hk hrole ha
  | @releaseAdapter call id hrole ha hcut hl hg hb =>
    have hrel : (s.releaseAdapter id).Intent words :=
      h.keep ⟨h.procedures.enlisted, h.procedures.tabled⟩ (fun _ => rfl) (fun _ => rfl)
        (fun _ row hrow => ⟨row, hrow, rfl⟩) h.requests
    exact hrel.disconnected (hc.tasks t task hk).valid hk hrole ha
  | @remove d now hrole hd hg =>
    exact h.removeDevice hg (fun u k hu => not_request_of_deletion hc hk h.procedures.enlisted hrole hg hu) now
  | @removeConnected d now hrole hcut hl hg hg' =>
    have hrel : (s.release.setConnected none).Intent words :=
      h.keep ⟨h.procedures.enlisted, h.procedures.tabled⟩ (fun _ => rfl) (fun _ => rfl)
        (fun _ row hrow => ⟨row, hrow, rfl⟩) h.requests
    exact hrel.removeDevice hg (fun u k hu => not_request_of_deletion hc hk h.procedures.enlisted hrole hg hu) now
  | quiet hq => exact h.keep hp (hd (congrArg Control.desire hq.control)) ht hpend hr
  | select => exact h.keep hp (hd (congrArg Control.desire (control_select _ _))) ht hpend hr
  | mark _ status error now => exact h.keep hp (hd ((steady_markOperation _ status error now).desire)) ht hpend hr
  | event id => exact h.keep hp (hd ((steady_scheduleEvent id).desire)) ht hpend hr
  | scheduleRecovery d immediate => exact h.keep hp (hd ((steady_scheduleRecovery d immediate).desire)) ht hpend hr
  | startPolling => exact h.keep hp (hd ((steady_startPolling _).desire)) ht hpend hr
  | _ => exact h.keep hp (hd rfl) ht hpend hr

theorem Intent.park (hk : s.tasks.get? t = some task) (h : s.Intent words) (hp : Park desireGuards t task n s s') :
    s'.Intent words := by
  have hr : s'.Each (fun task => ∀ call, task.frame.role = .procedure call → call.recovering = false →
      s.Heard words call) := by
    refine h.requests.park hk hp (fun f hs _ call hr hrec => h.requests t task hk call ?_ hrec)
    have hrole : f.role = .procedure call := hr
    have hold := hs.role
    rw [hrole] at hold
    exact hold.procedure hrec
  have hproc := h.procedures.park hk hp
  cases hp <;> exact h.keep hproc (fun _ => rfl) (fun _ => rfl) (fun _ row hrow => ⟨row, hrow, rfl⟩) hr

end Moves

section Requests

theorem Intent.register (h : s.Intent words) {row : DeviceRow} (hp : s'.Procedures)
    (hn : s.store.device row.deviceId = none) (hd : row.desiredState = .disconnected)
    (hs : s' = ({ s with store := s.store.saveDevice row, trace := .registered row.deviceId :: s.trace }.viewDevice
      row.deviceId).spawn (.registerHeartbeat row.deviceId .disconnected)) : s'.Intent words := by
  have hdes : ∀ d, s'.control.desire d =
      if d = row.deviceId then some (row.desiredState, row.autoReconnect) else s.control.desire d := by
    subst hs
    exact fun d => desire_register d row (.registered row.deviceId :: s.trace)
  have hlast : ∀ d, lastWord words d s'.trace =
      if row.deviceId = d then .disconnected else lastWord words d s.trace := by
    subst hs
    exact fun d => rfl
  have hnone : s.control.desire row.deviceId = none := by
    simp [control, hn]
  have hne : ∀ d, (s.control.desire d).isSome → d ≠ row.deviceId := by
    rintro d hreg rfl
    rw [hnone] at hreg
    cases hreg
  refine ⟨hp, fun d desired auto hx => ?_, fun d old hrow => ?_, ?_⟩
  · rw [hdes] at hx
    rw [hlast]
    split at hx
    · rename_i he
      cases hx
      rw [if_pos he.symm, hd]
    · rename_i he
      rw [if_neg (Ne.symm he)]
      exact h.word d desired auto hx
  · have hrow' : s.pendingOperation d = some old := by
      subst hs
      exact hrow
    obtain ⟨hreg, hw⟩ := h.pending d old hrow'
    rw [hdes, hlast, if_neg (hne d hreg), if_neg (hne d hreg).symm]
    exact ⟨hreg, hw⟩
  · have hset : s'.tasks = s.tasks.set s.nextTask ⟨.registerHeartbeat row.deviceId .disconnected, false⟩ := by
      subst hs
      rfl
    have hr := h.requests.of_set hset (fun call hr => by cases hr)
    refine hr.imp (fun k hk call hrole hrec => ?_)
    obtain ⟨hreg, hw⟩ := hk call hrole hrec
    unfold Heard
    rw [hdes, hlast, if_neg (hne _ hreg), if_neg (hne _ hreg).symm]
    exact ⟨hreg, hw⟩

theorem pendingOperation_accept (ha : ∀ d j, s.active.get? d = some j → j < s.nextOperation) (d d' : DeviceId)
    (action : ConnectionAction) (now : Time) :
    (s.accept d action now).pendingOperation d' =
      if d' = d then some ⟨s.nextOperation, action.kind, some d, .queued, now, now, none⟩
      else s.pendingOperation d' := by
  simp only [pendingOperation, Service.accept, log, spawn, newOperation, saveOperation, updateDevice, Dict.get?_set]
  split
  · simp [OperationStatus.pending]
  · cases hj : s.active.get? d' with
    | none => rfl
    | some j => simp [(ha d' j hj).ne]

theorem Intent.accept (hc : s.Coherent) (h : s.Intent words) {action : ConnectionAction} {now : Time}
    (hproc : (s.accept d action now).Procedures) (hd : (s.store.device d).isSome) (hp : s.pendingOperation d = none) :
    (s.accept d action now).Intent words := by
  have hreg : ∀ d', (s.control.desire d').isSome → ((s.accept d action now).control.desire d').isSome := by
    intro d' hs
    rw [desire_accept]
    split
    · rename_i he
      subst he
      simpa using hs
    · exact hs
  have hlast : ∀ d', lastWord words d' (s.accept d action now).trace =
      if d = d' then action.desired else lastWord words d' s.trace := fun _ => rfl
  refine ⟨hproc, fun d' desired auto hx => ?_, fun d' row hrow => ?_, ?_⟩
  · rw [hlast]
    rw [desire_accept] at hx
    split at hx
    · rename_i he
      obtain ⟨p, -, hp⟩ := Option.map_eq_some_iff.mp hx
      cases hp
      rw [if_pos he.symm]
    · rename_i he
      rw [if_neg (Ne.symm he)]
      exact h.word d' desired auto hx
  · rw [pendingOperation_accept hc.active] at hrow
    rw [hlast]
    split at hrow
    · rename_i he
      subst he
      cases hrow
      refine ⟨hreg d' (by simpa [control] using hd), action, rfl, by rw [if_pos rfl]⟩
    · rename_i he
      obtain ⟨hsome, hw⟩ := h.pending d' row hrow
      rw [if_neg (Ne.symm he)]
      exact ⟨hreg d' hsome, hw⟩
  · intro u k hk
    have hk' : (s.spawn (.queued ⟨s.nextOperation, d, action, false⟩)).tasks.get? u = some k := hk
    rcases Control.get?_spawn (c := s.control) hk' with ⟨-, rfl⟩ | hold
    · rintro call ⟨⟩ -
      refine ⟨hreg d (by simpa [control] using hd), ?_⟩
      rw [hlast, if_pos rfl]
    · intro call hr hrec
      have hidle := not_request_of_idle hc h.procedures.enlisted (by simp) hp hold
      have hne : d ≠ call.device := by
        rintro rfl
        simp [hr, Role.requests, hrec] at hidle
      obtain ⟨hsome, hw⟩ := h.requests u k hold call hr hrec
      refine ⟨hreg _ hsome, ?_⟩
      rw [hlast, if_neg hne]
      exact hw

theorem Intent.request (hc : s.Coherent) (h : s.Intent words) (hr : Request desireGuards s s') : s'.Intent words := by
  have hproc := h.procedures.request hc hr
  have hcancel : ∀ k : Task, (∀ call, k.frame.role = .procedure call → call.recovering = false → s.Heard words call) →
      ∀ call, k.cancel.frame.role = .procedure call → call.recovering = false → s.Heard words call :=
    fun k hk call hr => hk call (by rwa [Task.cancel_frame] at hr)
  have hpend : ∀ d row, s.pendingOperation d = some row → ∃ old, s.pendingOperation d = some old ∧
      row.kind = old.kind :=
    fun _ row hrow => ⟨row, hrow, rfl⟩
  cases hr with
  | quiet hq =>
    refine h.keep hproc (fun d => ?_) ?_ ?_ (h.requests.of_tasks (congrArg Control.tasks hq.control))
    · rw [hq.control]
    · rw [show s'.trace = s.trace from congrArg Control.trace hq.control]
      exact fun _ => rfl
    · intro d row hrow
      rw [pendingOperation_same (congrArg Control.operations hq.control) (congrArg Control.active hq.control)] at hrow
      exact ⟨row, hrow, rfl⟩
  | startScan now =>
    refine h.keep hproc (fun _ => rfl) (fun _ => rfl) (fun d row hrow => ?_)
      (h.requests.of_set rfl (fun call hr => by cases hr))
    have hrow' : (s.newOperation .scan none now).pendingOperation d = some row := hrow
    rw [pendingOperation_newOperation (hc.active d)] at hrow'
    exact ⟨row, hrow', rfl⟩
  | register row hn hd => exact h.register hproc hn hd rfl
  | patch d patch candidate =>
    refine h.keep hproc (fun d' => ?_) (fun _ => rfl) hpend h.requests
    rw [desire_patch]
    split
    · rename_i hd
      subst hd
      rw [Option.map_map]
      rfl
    · rfl
  | deleteRecovering hp hu =>
    exact h.keep hproc (fun _ => rfl) (fun _ => rfl) hpend
      ((h.requests.stopRecovery hcancel _ _).spawn (fun call hr => by cases hr))
  | deletePolling hp hu =>
    exact h.keep hproc (fun _ => rfl) (fun _ => rfl) hpend
      ((h.requests.stopPolling hcancel _ _).spawn (fun call hr => by cases hr))
  | deleteConnected =>
    exact h.keep hproc (fun _ => rfl) (fun _ => rfl) hpend (h.requests.spawn (fun call hr => by cases hr))
  | delete now hp hrec hd hg =>
    exact h.removeDevice hp (fun u k hk => not_request_of_idle hc h.procedures.enlisted (by simp) hp hk) now
  | @join d action row hp hk =>
    refine h.keep hproc (fun _ => rfl) (fun d' => ?_) hpend h.requests
    obtain ⟨-, action', hkind, hlast⟩ := h.pending d row hp
    obtain rfl := ConnectionAction.kind_injective (hk.symm.trans hkind)
    change (if d = d' then action.desired else lastWord words d' s.trace) = lastWord words d' s.trace
    split
    · rename_i hd
      rw [← hd, hlast]
    · rfl
  | @accept d action now hd hp ho hclosing => exact h.accept hc hproc hd hp
  | close =>
    exact h.keep hproc (fun _ => rfl) (fun _ => rfl) hpend
      ((h.requests.cancel hcancel _).of_set rfl (fun call hr => by cases hr))
  | @adopt d =>
    have hs : Steady { s with owner := some d } ({ s with owner := some d }.scheduleRecovery d true) :=
      steady_scheduleRecovery d true
    have hr : ({ s with owner := some d } : Service).Each (fun task => ∀ call, task.frame.role = .procedure call →
        call.recovering = false → s.Heard words call) := h.requests
    refine h.keep hproc (fun d' => ?_) (fun d' => ?_) (fun d' row hrow => ?_)
      (hr.scheduleRecovery (fun _ call hr => by cases hr))
    · rw [hs.desire]
      rfl
    · rw [hs.trace]
    · rw [pendingOperation_same (operations_scheduleRecovery d true) (active_scheduleRecovery d true)] at hrow
      exact ⟨row, hrow, rfl⟩
  | unlink => exact h.keep hproc (fun _ => rfl) (fun _ => rfl) hpend h.requests

end Requests

section Results

theorem intent_startDiscovery {boot : Service} (ht : boot.tasks = Dict.empty) (ha : boot.active = Dict.empty)
    (now : Time)
    (hw : ∀ d desired auto, boot.control.desire d = some (desired, auto) → desired = lastWord words d boot.trace) :
    (boot.startDiscovery now).Intent words := by
  refine ⟨procedures_startDiscovery ht now, hw, fun d row hrow => ?_, fun u k hk => ?_⟩
  · have hrow' : ((boot.active.get? d).bind boot.operations.get?).filter (fun row => row.status.pending) = some row :=
      hrow
    rw [ha] at hrow'
    cases hrow'
  · obtain rfl := get?_startDiscovery ht hk
    intro call hr
    cases hr

theorem preserved_intent (words : DeviceId → DesiredState) : Preserved desireGuards (Intent words) where
  move hc hk h hm := h.move hc hk hm
  park _ hk h hp := h.park hk hp
  request hc h hr := h.request hc hr
  restart {s} now _ h := @intent_startDiscovery words s.successor rfl rfl now h.word

theorem desired_is_last_word (h : Reaches (StartedOn words) step Heeds s) :
    ∀ d row, s.store.device d = some row → row.desiredState = lastWord words d s.trace := by
  have hi := ((preserved_intent words).reaches (fun _ hs => hs.1) ?_ (fun _ _ ha => ha.promised) h).2
  · intro d row hrow
    exact hi.word d row.desiredState row.autoReconnect (by simp [control, hrow])
  · rintro boot now ⟨settings, store, T, id, nextOperation, -, -, rfl⟩ ⟨-, hw⟩
    refine intent_startDiscovery rfl rfl now (fun d desired auto hd => ?_)
    rw [← desire_start _ now] at hd
    obtain ⟨row, hrow, rfl⟩ := desire_some hd
    exact hw d row hrow

theorem firstSession_startedOn : StartedOn (fun _ => .disconnected) firstSession :=
  ⟨firstSession_started, fun d row hrow => by cases hrow⟩

theorem desired_is_last_word_recovered :
    ∃ s, replay step firstSession (recoverFirst ++
    [.resume 6 (.read (TelemetryState.sampleSnapshot 0 1 (by decide))) 0 0]) =
      some s ∧ lastWord (fun _ => .disconnected) "igrill-v202-a" s.trace = .connected ∧
      ∀ row, s.store.device "igrill-v202-a" = some row → row.desiredState = .connected := by
  have hrun : (replayIf (fun s a => decide (s.Heeds a)) step firstSession
      (recoverFirst ++ [.resume 6 (.read (TelemetryState.sampleSnapshot 0 1 (by decide))) 0 0])).map
      (fun s => lastWord (fun _ => .disconnected) "igrill-v202-a" s.trace) = some .connected := by decide +kernel
  obtain ⟨s, hs, hw⟩ := Option.map_eq_some_iff.mp hrun
  have hr : Reaches (StartedOn (fun _ => .disconnected)) step Heeds s :=
    .of_replayIf (fun _ _ => of_decide_eq_true) (.init firstSession_startedOn) hs
  exact ⟨s, replay_of_replayIf hs, hw, fun row hrow => (desired_is_last_word hr _ row hrow).trans hw⟩

/-- A recovery attempt succeeds after a disconnect was accepted. -/
theorem not_desired_is_last_word :
    ¬ ∀ words s, Reachable (StartedOn words) step s →
      ∀ d row, s.store.device d = some row → row.desiredState = lastWord words d s.trace := by
  intro hall
  have hrun : (replay step firstSession (recoverFirst ++ [.startConnectionOperation "igrill-v202-a" .disconnect 0,
      .resume 6 (.read (TelemetryState.sampleSnapshot 0 1 (by decide))) 0 0])).map
      (fun s => ((s.store.device "igrill-v202-a").map DeviceRow.desiredState,
        lastWord (fun _ => .disconnected) "igrill-v202-a" s.trace)) = some (some .connected, .disconnected) := by
    decide +kernel
  obtain ⟨s, hs, he⟩ := Option.map_eq_some_iff.mp hrun
  obtain ⟨hd, hw⟩ := Prod.mk.inj he
  obtain ⟨row, hrow, hdes⟩ := Option.map_eq_some_iff.mp hd
  have hr : Reachable (StartedOn (fun _ => .disconnected)) step s := .of_replay (.init firstSession_startedOn) hs
  have hcon := hall _ s hr _ row hrow
  rw [hdes, hw] at hcon
  cases hcon

end Results

end Service

end PitbluCore
