import PitbluCore.ServiceMoves

namespace PitbluCore.Service

open Library Relation

variable {s : Service}

section Fields

theorem desire_updateDevice (d d' : DeviceId) (f : DeviceRow → DeviceRow) :
    (s.updateDevice d f).control.desire d' =
      if d' = d then (s.store.device d).map (fun row => ((f row).desiredState, (f row).autoReconnect))
      else s.control.desire d' := by
  by_cases hd : d' = d <;> simp [control, updateDevice, hd, Function.comp_def]

theorem desire_setDesired (d d' : DeviceId) (desired : DesiredState) (observed : ConnectionState) :
    (s.setDesired d desired observed).control.desire d' =
      if d' = d then (s.control.desire d).map (fun p => (desired, p.2)) else s.control.desire d' := by
  rw [setDesired, desire_updateDevice]
  simp only [control, Option.map_map, Function.comp_def]

theorem desire_patch (d d' : DeviceId) (patch : DevicePatch) (candidate : Option DiscoveredDevice) :
    (s.updateDevice d (patchRow patch candidate)).control.desire d' =
      if d' = d then (s.control.desire d).map (fun p => (p.1, patch.automaticReconnection.getD p.2))
      else s.control.desire d' := by
  rw [desire_updateDevice]
  simp only [control, Option.map_map, Function.comp_def, patchRow]

theorem desire_removeDevice (d d' : DeviceId) (now : Time) :
    (s.removeDevice d now).control.desire d' = if d' = d then none else s.control.desire d' := by
  simp only [control, removeDevice, AdministrativeStore.device_deleteDevice]
  split <;> rfl

theorem desire_accept (d d' : DeviceId) (action : ConnectionAction) (now : Time) :
    (s.accept d action now).control.desire d' =
      if d' = d then (s.control.desire d).map (fun p => (action.desired, p.2)) else s.control.desire d' := by
  have hu := desire_updateDevice (s := s) d d' (fun row => { row with desiredState := action.desired })
  simp only [control, Option.map_map, Function.comp_def] at hu ⊢
  exact hu

theorem desire_register (d' : DeviceId) (row : DeviceRow) (trace : List TraceItem) :
    ({ s with store := s.store.saveDevice row, trace := trace } : Service).control.desire d' =
      if d' = row.deviceId then some (row.desiredState, row.autoReconnect) else s.control.desire d' := by
  simp only [control, AdministrativeStore.device_saveDevice]
  split <;> rfl

theorem control_updateDevice {d : DeviceId} {f : DeviceRow → DeviceRow}
    (hf : ∀ row, (f row).desiredState = row.desiredState ∧ (f row).autoReconnect = row.autoReconnect) :
    (s.updateDevice d f).control = s.control := by
  have hd : (s.updateDevice d f).control.desire = s.control.desire := by
    funext d'
    rw [desire_updateDevice]
    split
    · rename_i hd
      simp only [hf, hd]
      rfl
    · rfl
  change { s.control with desire := (s.updateDevice d f).control.desire } = s.control
  rw [hd]

theorem control_select (d : DeviceId) (c : DiscoveredDevice) :
    (s.updateDevice d (fun row => { row with discoveryId := c.discoveryId })).control = s.control :=
  control_updateDevice (fun _ => ⟨rfl, rfl⟩)

theorem registry_updateDevice {d : DeviceId} {f : DeviceRow → DeviceRow}
    (hf : ∀ row, (f row).selection = row.selection) : (s.updateDevice d f).registry = s.registry := by
  have hd : (s.updateDevice d f).registry.rows = s.registry.rows := by
    funext d'
    by_cases hd : d' = d <;> simp [registry, updateDevice, hd, hf, Function.comp_def]
  change { s.registry with rows := (s.updateDevice d f).registry.rows } = s.registry
  rw [hd]

theorem candidates_discover_iff {results : List Advertisement} {id : DiscoveryId} {c : DiscoveredDevice} :
    (s.discover results).candidates.get? id = some c ↔ c ∈ s.adapter.candidates results ∧ c.discoveryId = id := by
  have hids : (((s.adapter.candidates results).map (fun c => (c.discoveryId, c))).map Prod.fst).Nodup := by
    simpa [Function.comp_def] using s.adapter.candidates_nodup results
  have hget := Dict.get?_foldl_set Dict.empty ((s.adapter.candidates results).map (fun c => (c.discoveryId, c))) hids id
  have hd : (s.discover results).candidates.get? id =
      ((s.adapter.candidates results).map (fun c => (c.discoveryId, c))).lookup id := by
    refine hget.trans ?_
    simp
  rw [hd, lookup_eq_some_iff hids]
  simp [and_comm]

theorem candidates_discover {results : List Advertisement} {c : DiscoveredDevice}
    (h : c ∈ s.adapter.candidates results) : (s.discover results).candidates.get? c.discoveryId = some c :=
  candidates_discover_iff.mpr ⟨h, rfl⟩

theorem markOperation_eq (id : OperationId) (status : OperationStatus) (error : Option ErrorCode) (now : Time) :
    ∃ ops S, s.markOperation id status error now = { s with operations := ops, store := S } ∧
      ∀ d, S.device d = s.store.device d := by
  unfold markOperation
  split
  · exact ⟨s.operations, s.store, rfl, fun _ => rfl⟩
  · exact ⟨_, _, rfl, fun _ => rfl⟩

theorem scheduleEvent_eq (id : OperationId) :
    s.scheduleEvent id = s ∨ ∃ row, s.scheduleEvent id = s.spawn (.event row) := by
  unfold scheduleEvent
  split
  · exact .inl rfl
  · exact .inr ⟨_, rfl⟩

def Fresh (s : Service) : Prop := ∀ u, s.nextTask ≤ u → s.tasks.get? u = none

theorem Fresh.spawn (h : s.Fresh) (frame : Frame) : (s.spawn frame).Fresh := by
  intro u hu
  have hu' : s.nextTask < u := hu
  simp only [Service.spawn, Dict.get?_set, hu'.ne', ↓reduceIte]
  exact h u hu'.le

theorem Fresh.cancel (h : s.Fresh) (u : TaskId) : (s.cancel u).Fresh := by
  intro v hv
  have hn := h v hv
  by_cases hu : v = u
  · subst hu
    simp [Service.cancel, hn]
  · simp [Service.cancel, hu, hn]

theorem Fresh.startPolling (h : s.Fresh) (d : DeviceId) : (s.startPolling d).Fresh := by
  unfold Service.startPolling
  dsimp only
  apply Fresh.spawn
  split
  · rename_i u hu
    exact (show Fresh { s with pollingTasks := s.pollingTasks.erase d } from h).cancel u
  · exact h

end Fields

variable {G : Guards} {t : TaskId} {task : Task} {n : OperationId}

section Chains

theorem Segment.head {s m s' : Service} (hm : Move G t task n s m) (h : Segment G t task n m s') :
    Segment G t task n s s' := by
  obtain ⟨m', hms, hp⟩ := h
  exact ⟨m', .head hm hms, hp⟩

theorem Segment.park {s s' : Service} (h : Park G t task n s s') : Segment G t task n s s' := ⟨s, .refl, h⟩

theorem Segment.quiet (m : Service) {s s' : Service} (hq : Quiet (fun d => task.frame.role.touches d) s m)
    (h : Segment G t task n m s') : Segment G t task n s s' :=
  .head (.quiet hq) h

theorem Segment.keep (m : Service) {s s' : Service} (hc : m.control = s.control) (hr : m.registry = s.registry)
    (ht : m.telemetry = s.telemetry) (h : Segment G t task n m s') : Segment G t task n s s' :=
  .quiet m ⟨hc, hr, ht ▸ .refl _⟩ h

theorem Segment.column {s s' : Service} {d : DeviceId} {f : DeviceRow → DeviceRow}
    (h : Segment G t task n (s.updateDevice d f) s')
    (hf : ∀ row, (f row).desiredState = row.desiredState ∧ (f row).autoReconnect = row.autoReconnect)
    (hs : ∀ row, (f row).selection = row.selection) : Segment G t task n s s' :=
  .keep _ (control_updateDevice hf) (registry_updateDevice hs) rfl h

theorem Segment.setObserved {s s' : Service} (d : DeviceId) (state : ConnectionState)
    (h : Segment G t task n (s.setObserved d state) s') : Segment G t task n s s' :=
  .column h (fun _ => ⟨rfl, rfl⟩) (fun _ => rfl)

theorem Segment.finish {s s' : Service} (id : OperationId)
    (hid : task.frame.role.operation = some id ∨ n ≤ id ∧ ∃ d, task.frame.role = .recovery d)
    (hc : task.cancelled = false)
    (hl : s.control.Live id) (failed : Bool) (now : Time) (h : Segment G t task n (s.finish id failed now) s') :
    Segment G t task n s s' := by
  unfold Service.finish at h
  have hid' := hid.imp_right (fun h => And.intro h.1 (And.intro hc h.2))
  cases failed
  · exact .head (.mark hid' .succeeded none now hl (by simp) (by simp) (by simp [hc])) (.head (.event id) h)
  · exact .head (.mark hid' .failed (some .deviceOperationFailed) now hl (by simp) (by simp) (by simp [hc]))
      (.head (.event id) h)

theorem park_plain {s : Service} (frame : Frame) (hh : Role.Handover n task.frame.role frame.role)
    (hc : task.cancelled = false) (hl : frame.holdsLock = false) (hd : frame.disconnecting = false)
    (hk : frame.link = none) (hv : frame.Valid) (hp : s.control.Accounted frame.role)
    (ho : frame.Plain) : Park G t task n s (s.suspend t frame) := by
  refine .suspend frame ⟨hh, ?_, ?_, ?_, hv, hp, ho.not_procedure, ho.not_sleeping, ho.not_queued⟩ hc
  · simp [hl]
  · simp [hd]
  · simp [hk]

theorem park_locked {s : Service} (frame : Frame) (hh : Role.Handover n task.frame.role frame.role)
    (hc : task.cancelled = false) (hl : s.ioLock = some t) (hd : frame.disconnecting = false)
    (hk : frame.link = none) (hv : frame.Valid) (hp : s.control.Accounted frame.role)
    (ho : frame.Plain) : Park G t task n s (s.suspend t frame) := by
  refine .suspend frame ⟨hh, fun _ => hl, ?_, ?_, hv, hp, ho.not_procedure, ho.not_sleeping, ho.not_queued⟩ hc
  · simp [hd]
  · simp [hk]

end Chains

section Relief

theorem wanted_iff {d : DeviceId} : s.control.Wanted d ↔ s.recoveryWanted d = true := by
  cases hd : s.store.device d with
  | none => simp [Control.Wanted, recoveryWanted, control, hd]
  | some row => simp [Control.Wanted, recoveryWanted, control, hd, and_comm]

variable {role : Role}

theorem relieved_scheduleRecovery {d : DeviceId} (hr : role.recovers d = false) (immediate : Bool) :
    Relieved G role (s.scheduleRecovery d immediate).control d := by
  unfold scheduleRecovery
  split
  · rename_i h
    rcases (Bool.or_eq_true _ _).mp h with h | h
    · exact .unwanted (fun hw => by rw [wanted_iff.mp hw] at h; cases h)
    · exact .recovered hr h
  · exact .recovered hr (by simp [control, spawn, Dict.contains])

theorem polled_startPolling (d : DeviceId) : ∃ u task, (s.startPolling d).tasks.get? u = some task ∧
    task.frame.role = .polling d ∧ task.cancelled = false := by
  unfold startPolling
  dsimp only
  split
  · rename_i u _
    exact ⟨(s.stopPolling d u).nextTask, ⟨.polling d .starting, false⟩, by simp [spawn], rfl, rfl⟩
  · exact ⟨s.nextTask, ⟨.polling d .starting, false⟩, by simp [spawn], rfl, rfl⟩

theorem Relieved.set {c : Control} {d : DeviceId} (h : Relieved G role c d) {u : TaskId} {task : Task}
    (hu : c.tasks.get? u = none) : Relieved G role { c with tasks := c.tasks.set u task } d := by
  cases h with
  | unwanted h => exact .unwanted h
  | recovered hr h => exact .recovered hr h
  | found hr h => exact .found hr (G.found_set d c.tasks u task h hu)
  | polled hr h =>
    obtain ⟨v, k, hk, hrole, hc⟩ := h
    have hne : v ≠ u := by
      rintro rfl
      rw [hu] at hk
      cases hk
    exact .polled hr ⟨v, k, by simp [hne, hk], hrole, hc⟩

theorem Relieved.of_same {c c' : Control} {d : DeviceId} (h : Relieved G role c d) (h₁ : c'.closing = c.closing)
    (h₂ : c'.desire d = c.desire d) (h₃ : c'.recoveries = c.recoveries) (h₄ : c'.tasks = c.tasks) :
    Relieved G role c' d := by
  cases h with
  | unwanted h => exact .unwanted (by unfold Control.Wanted at *; rwa [h₁, h₂])
  | recovered hr h => exact .recovered hr (h₃ ▸ h)
  | found hr h => exact .found hr (h₄ ▸ h)
  | polled hr h => exact .polled hr (h₄ ▸ h)

theorem Relieved.finish {d : DeviceId} {id : OperationId} {failed : Bool} {now : Time} (hf : s.Fresh)
    (h : Relieved G role s.control d) : Relieved G role (s.finish id failed now).control d := by
  have hm : ∀ status error, Relieved G role ((s.markOperation id status error now).scheduleEvent id).control d := by
    intro status error
    obtain ⟨ops, S, he, hS⟩ := markOperation_eq (s := s) id status error now
    rw [he]
    have hr : Relieved G role ({ s with operations := ops, store := S } : Service).control d :=
      h.of_same rfl (by simp [control, hS]) rfl rfl
    rcases scheduleEvent_eq (s := { s with operations := ops, store := S }) id with h' | ⟨row, h'⟩
    · rw [h']
      exact hr
    · rw [h']
      exact (hr.set (hf s.nextTask le_rfl)).of_same rfl rfl rfl rfl
  unfold Service.finish
  cases failed
  · exact hm .succeeded none
  · exact hm .failed (some .deviceOperationFailed)

end Relief

section Procedures

variable {call : Call} {row : DeviceRow}

def Runs (task : Task) (n : OperationId) (call : Call) : Prop :=
  task.frame.role = .procedure call ∨
    task.frame.role = .recovery call.device ∧ call.action = .reconnect ∧ call.recovering = true ∧ n ≤ call.operation

theorem Runs.handover (h : Runs task n call) : Role.Handover n task.frame.role (.procedure call) := by
  rcases h with h | ⟨h, ha, hr, hn⟩
  · rw [h]
    exact .same _
  · rw [h]
    obtain ⟨id, d, action, recovering⟩ := call
    cases ha
    cases hr
    exact .attempt d hn

theorem Runs.operation (h : Runs task n call) :
    task.frame.role.operation = some call.operation ∨ n ≤ call.operation ∧ ∃ d, task.frame.role = .recovery d := by
  rcases h with h | ⟨hd, -, -, hn⟩
  · exact .inl (by rw [h]; rfl)
  · exact .inr ⟨hn, _, hd⟩

theorem executes_of_role (hr : task.frame.role = .procedure call) (ha : call.action ≠ .disconnect) :
    task.frame.role.executes call.device = true := by
  simp [hr, Role.executes, ha]

theorem segment_await (hr : Runs task n call) (hc : task.cancelled = false) (hp : s.control.Pending call)
    (hb : Begun s task.frame call row) {point : Point} (hv : (Frame.procedure call row point).Valid)
    (hl : point.holdsLock = true → s.ioLock = some t) (hd : point = .disconnecting → s.adapter.client = none)
    (hk : ∀ l, point = .reading l → s.adapter.client = some l) :
    Segment G t task n s (s.await t call row point) := by
  refine .park (.suspend _ ⟨hr.handover, hl, fun h => hd ?_, fun l h => hk l ?_, hv, hp, ?_, ?_, fun _ h => by cases h⟩
    hc)
  · cases point <;> first | rfl | cases h
  · cases point <;> cases h
    rfl
  · rintro call' row' point' ⟨⟩
    exact hb
  · intro d h
    cases h

theorem segment_wait (point : Point) (hl : point.holdsLock = false) (hr : Runs task n call)
    (hc : task.cancelled = false) (hp : s.control.Pending call) (hb : Begun s task.frame call row)
    (hv : (Frame.procedure call row point).Valid) : Segment G t task n s (s.await t call row point) := by
  apply segment_await hr hc hp hb hv
  · simp [hl]
  · rintro rfl
    cases hl
  · rintro l rfl
    cases hl

theorem segment_recoverNext {d : DeviceId} (hc : task.cancelled = false)
    (hr : task.frame.role = .recovery d ∨
      ∃ call, task.frame.role = .procedure call ∧ call.recovering = true ∧ call.device = d) :
    Segment G t task n s (s.recoverNext t d) := by
  have hrel : ∀ c, Relieved G task.frame.role c d → Released G c task.frame.role := by
    intro c h
    rcases hr with hr | ⟨call, hr, -, hd⟩
    · rw [hr] at h ⊢
      exact h
    · subst hd
      rw [hr] at h ⊢
      exact h
  have hrec : task.frame.role.recovers d = true := by
    rcases hr with hr | ⟨call, hr, hrec, hd⟩
    · simp [hr, Role.recovers]
    · simp [hr, Role.recovers, hrec, hd]
  have hh : Role.Handover n task.frame.role (.recovery d) := by
    rcases hr with hr | ⟨call, hr, hrec, hd⟩
    · exact hr ▸ .same _
    · exact hr ▸ hd ▸ .retry hrec
  unfold recoverNext
  split
  · rename_i hw
    refine .keep (s.nextDelay d) rfl rfl rfl
      (.park (.suspend (.recovery d .sleeping) ⟨hh, ?_, ?_, ?_, trivial, trivial, ?_, ?_, ?_⟩ hc))
    any_goals
      intros
      contradiction
    · rintro d' ⟨⟩
      exact wanted_iff.mpr hw
    · rintro call ⟨⟩
  · rename_i hw
    exact .park (.recovery hrec (fun _ => hrel _ (.unwanted (fun h => hw (wanted_iff.mp h)))))

theorem finish_eq (id : OperationId) (failed : Bool) (now : Time) :
    (s.finish id failed now).recoveries = s.recoveries ∧ ∀ d, (s.finish id failed now).store.device d =
    s.store.device d := by
  have hm : ∀ status error, ((s.markOperation id status error now).scheduleEvent id).recoveries = s.recoveries ∧
      ∀ d, ((s.markOperation id status error now).scheduleEvent id).store.device d = s.store.device d := by
    intro status error
    obtain ⟨ops, S, he, hS⟩ := markOperation_eq (s := s) id status error now
    rw [he]
    rcases scheduleEvent_eq (s := { s with operations := ops, store := S }) id with h | ⟨row, h⟩ <;> rw [h] <;>
      exact ⟨rfl, hS⟩
  unfold Service.finish
  cases failed
  · exact hm .succeeded none
  · exact hm .failed (some .deviceOperationFailed)

theorem recoveries_finish (id : OperationId) (failed : Bool) (now : Time) :
    (s.finish id failed now).recoveries = s.recoveries := (finish_eq id failed now).1

theorem desire_finish (id : OperationId) (failed : Bool) (now : Time) :
    (s.finish id failed now).control.desire = s.control.desire := by
  funext d
  simp only [control, (finish_eq id failed now).2]

theorem not_live_finish {id : OperationId} (hl : s.control.Live id) (failed : Bool) (now : Time) :
    ¬ (s.finish id failed now).control.Live id := by
  have hm : ∀ status error, status.pending = false →
      ¬ ((s.markOperation id status error now).scheduleEvent id).control.Live id := by
    rintro status error hs ⟨r, hr, -, hp⟩
    have hops : ∀ m : Service, (m.scheduleEvent id).operations = m.operations := by
      intro m
      rcases scheduleEvent_eq (s := m) id with he | ⟨row, he⟩ <;> rw [he]
      rfl
    obtain ⟨row, hrow, hid, -⟩ := hl
    have hrow' : s.operations.get? id = some row := hrow
    have hr' : (s.markOperation id status error now).operations.get? id = some r :=
      (congrArg (Dict.get? · id) (hops _)).symm.trans hr
    simp only [markOperation, hrow', saveOperation, hid, Dict.get?_set, ↓reduceIte] at hr'
    cases hr'
    cases hs.symm.trans hp
  unfold Service.finish
  cases failed
  · exact hm .succeeded none rfl
  · exact hm .failed (some .deviceOperationFailed) rfl

theorem segment_leave (hr : task.frame.role = .procedure call ∨
      task.frame.role = .recovery call.device ∧ call.recovering = true) (hc : task.cancelled = false)
    {succeeded : Bool}
    (h : call.recovering = false ∨ succeeded = true → Relieved G task.frame.role s.control call.device)
    (hb : call.recovering = false → Halted s task.frame call ∨ s.store.device call.device = none) :
    Segment G t task n s (s.leave t call succeeded) := by
  unfold leave
  by_cases hrec : call.recovering = true
  · simp only [hrec, Bool.not_true, Bool.false_eq_true, ↓reduceIte]
    split
    · rename_i hs
      refine .park (.recovery ?_ (fun _ => ?_))
      · rcases hr with hr | ⟨hr, -⟩ <;> simp [hr, Role.recovers, hrec]
      · have h' := h (.inr hs)
        rcases hr with hr | ⟨hr, -⟩ <;> rw [hr] at h' ⊢ <;> exact h'
    · apply segment_recoverNext hc
      rcases hr with hr | ⟨hr, -⟩
      · exact .inr ⟨call, hr, hrec, rfl⟩
      · exact .inl hr
  · have hrec' : call.recovering = false := by simpa using hrec
    simp only [hrec', Bool.not_false, ↓reduceIte]
    rcases hr with hr | ⟨-, hr⟩
    · refine .park (.done ?_ ?_ (fun _ => ?_) (fun _ call' hf => ?_))
      · intro d
        simp [hr, Role.recovers, hrec']
      · intro d
        simp [hr]
      · have h' := h (.inl hrec')
        rw [hr] at h' ⊢
        exact h'
      · rw [hf] at hr
        obtain rfl : call' = call := Role.procedure.inj hr
        refine (hb hrec').imp_left (fun hx => hx.resolve_left ?_)
        rintro ⟨row, point, hx⟩
        cases hf.symm.trans hx
    · exact absurd hr hrec

theorem segment_fail (hf : ∃ row point, task.frame = .procedure call row point) (hc : task.cancelled = false)
    (ha : call.action ≠ .disconnect) (hl : s.control.Live call.operation) (stage : Stage) (e : Failure) (now : Time) :
    Segment G t task n s (s.fail t call stage e now) := by
  have hr : task.frame.role = .procedure call := by
    obtain ⟨row, point, hf⟩ := hf
    rw [hf]
    rfl
  unfold fail
  dsimp only
  refine .keep (s.noteFailure stage e) rfl rfl rfl ?_
  apply Segment.setObserved call.device (if call.action = .disconnect then .disconnected else .backoff)
  refine .finish call.operation (.inl (by rw [hr]; rfl)) hc ?_ true now ?_
  · exact hl
  by_cases hrec : call.recovering = true
  · simp only [ha, hrec, ne_eq, not_false_eq_true, decide_true, Bool.not_true, Bool.and_false, Bool.false_eq_true,
      ↓reduceIte]
    exact segment_leave (.inl hr) hc (fun h => by simp [hrec] at h) (fun _ => .inl (.inl hf))
  · simp only [ha, hrec, ne_eq, not_false_eq_true, decide_true, Bool.not_false, Bool.and_true, ↓reduceIte]
    refine .head (.scheduleRecovery call.device false (.inl (executes_of_role hr ha)) hc ?_ ?_) ?_
    · intro call' hr'
      obtain rfl : call = call' := Role.procedure.inj (hr.symm.trans hr')
      refine ⟨hf, by simpa using hrec, not_live_finish ?_ true now⟩
      exact hl
    · intro hx
      cases (executes_of_role hr ha).symm.trans hx
    refine segment_leave (.inl hr) hc (fun _ => ?_) (fun _ => .inl (.inl hf))
    exact relieved_scheduleRecovery (by simp [hr, Role.recovers, hrec]) _

theorem segment_complete (hr : task.frame.role = .procedure call) (hc : task.cancelled = false) (hf : s.Fresh)
    (hl : s.control.Live call.operation) (hb : Halted s task.frame call) (now : Time)
    (h : Relieved G task.frame.role s.control call.device) (hd : call.action = .disconnect → s.Unwanted call.device) :
    Segment G t task n s (s.complete t call now) := by
  have hb' : Halted (s.finish call.operation false now) task.frame call := by
    unfold Halted
    rwa [recoveries_finish]
  have hd' : call.action = .disconnect → (s.finish call.operation false now).Unwanted call.device := by
    unfold Unwanted
    rwa [desire_finish]
  refine .finish call.operation (.inl (by rw [hr]; rfl)) hc hl false now (.head (.succeeded hr hc hb' hd') ?_)
  refine segment_leave (.inl hr) hc (fun _ => ?_) (fun _ => .inl hb')
  exact (h.finish hf).of_same rfl rfl rfl rfl

theorem Segment.touched {s s' : Service} (T : TelemetryState)
    (hT : TelemetryState.Confined (fun d => task.frame.role.touches d = true ∨ s.telemetry.Known d) s.telemetry T)
    (h : Segment G t task n { s with telemetry := T } s') : Segment G t task n s s' :=
  .quiet { s with telemetry := T } ⟨rfl, rfl, hT⟩ h

theorem Segment.telemetry {s s' : Service} (T : TelemetryState)
    (hT : TelemetryState.Confined s.telemetry.Known s.telemetry T)
    (h : Segment G t task n { s with telemetry := T } s') : Segment G t task n s s' :=
  .touched T (hT.mono (fun _ h => .inr h)) h

theorem unwanted_disconnected (d : DeviceId) (state : ConnectionState) :
    (s.setDesired d .disconnected state).Unwanted d := by
  intro auto h
  rw [desire_setDesired, if_pos rfl] at h
  cases hd : s.control.desire d <;> simp [hd] at h

theorem Unwanted.not_wanted {d : DeviceId} (h : s.Unwanted d) : ¬ s.control.Wanted d := fun hw => h true hw.2

theorem segment_disconnectDevice (hr : task.frame.role = .procedure call) (hc : task.cancelled = false)
    (ha : call.action = .disconnect) (hf : s.Fresh) (hl : s.control.Live call.operation)
    (hb : Halted s task.frame call) (now : Time) : Segment G t task n s (s.disconnectDevice t call now) := by
  apply Segment.telemetry ((s.telemetry.connection call.device .disconnected now).heartbeatDisconnected call.device now)
  · exact (TelemetryState.connection_confined _ _ _ _).trans_known
      (TelemetryState.heartbeatDisconnected_confined _ _ _)
  · refine .head (.disconnected hr ha hb) (segment_complete hr hc ?_ ?_ ?_ now (.unwanted ?_) ?_)
    · exact hf
    · exact hl
    · exact hb
    · exact (unwanted_disconnected _ _).not_wanted
    · exact fun _ => unwanted_disconnected _ _

theorem Runs.procedure (h : Runs task n call) (ha : call.action ≠ .reconnect) : task.frame.role = .procedure call :=
  h.elim id (fun h => absurd h.2.1 ha)

def Call.Valid (call : Call) : Prop := call.recovering = true → call.action = .reconnect

theorem segment_pollingStopped (hr : Runs task n call) (hc : task.cancelled = false) (hv : Call.Valid call)
    (hp : s.control.Pending call) (hb : Begun s task.frame call row) (hf : s.Fresh) (now : Time) :
    Segment G t task n s (s.pollingStopped t call row now) := by
  unfold pollingStopped
  split
  · rename_i h
    refine segment_disconnectDevice (hr.procedure (by simp [h.1])) hc h.1 hf hp.live (hb.halted ?_) now
    by_contra hrec
    simp [hv (by simpa using hrec)] at h
  · exact segment_wait .lockDisconnect rfl hr hc hp hb ⟨hv, by simp [Point.connects]⟩

theorem segment_haltPolling (hr : Runs task n call) (hc : task.cancelled = false) (hv : Call.Valid call)
    (hp : s.control.Pending call) (hb : Begun s task.frame call row) (hf : s.Fresh) (now : Time) :
    Segment G t task n s (s.haltPolling t call row now) := by
  unfold haltPolling
  split
  · rename_i u hu
    have hstop : Move G t task n s (s.stopPolling call.device u) := by
      apply Move.stopPolling hu _ hc
      rcases hr with hr | ⟨hr, -⟩
      · exact .inl ⟨call, hr, rfl⟩
      · exact .inr (.inl hr)
    refine .head hstop (segment_wait (.stoppingPolling u) rfl hr hc ?_ hb ⟨hv, by simp [Point.connects]⟩)
    exact hp
  · exact segment_pollingStopped hr hc hv hp hb hf now

theorem segment_recoveryStopped (hr : Runs task n call) (hc : task.cancelled = false) (hv : Call.Valid call)
    (hp : s.control.Pending call) (hb : Begun s task.frame call row) (hf : s.Fresh) (now : Time)
    (hg : call.action = .connect → s.connectedDevice = some call.device → s.adapter.isConnected →
      G.found call.device s.tasks) :
    Segment G t task n s (s.recoveryStopped t call row now) := by
  unfold recoveryStopped
  have hexpect : TelemetryState.Confined s.telemetry.Known s.telemetry
      (s.telemetry.heartbeatExpected call.device now) := TelemetryState.heartbeatExpected_confined _ _ _
  split
  · exact segment_haltPolling hr hc hv hp hb hf now
  · rename_i ha
    split
    · rename_i h
      obtain ⟨hd, hk⟩ := (Bool.and_eq_true _ _).mp h
      have hrec : call.recovering = false := by
        by_contra hrec
        simp [hv (by simpa using hrec)] at ha
      have hrole := hr.procedure (by simp [ha])
      refine segment_complete hrole hc hf hp.live (hb.halted hrec) now (.found ?_ (hg ha (by simpa using hd) hk)) ?_
      · simp [hrole, Role.supports, Role.recovers, Role.polls, hrec]
      · simp [ha]
    · refine .telemetry _ hexpect (segment_wait .lockConnect rfl hr hc ?_ hb ⟨hv, by simp [ha]⟩)
      exact hp
  · refine .telemetry _ hexpect (segment_haltPolling hr hc hv ?_ ?_ ?_ now)
    · exact hp
    · exact hb
    · exact hf

theorem pending_saveOperation {row : OperationRow} (hid : row.operationId = call.operation)
    (hp : row.status.pending) (hd : row.deviceId = some call.device) (hk : row.kind = call.action.kind)
    (h : s.closing = false → ∀ r, s.store.operations.get? call.operation = some r →
      r.kind = row.kind ∧ r.deviceId = row.deviceId) :
    (s.saveOperation row).control.Pending call := by
  refine ⟨⟨row, by simp [control, saveOperation, hid], hid, hp, hd, hk⟩, fun hc => ?_⟩
  obtain ⟨r, hr, hrp, hrk, hrd⟩ := s.store.saveOperation_get?_self hp (hid ▸ h hc)
  exact ⟨r, hid ▸ hr, hrp, hrd.trans hd, hrk.trans hk⟩

theorem live_markRunning {id : OperationId} (h : s.control.Live id) (now : Time) :
    (s.markOperation id .running none now).control.Live id := by
  obtain ⟨row, hrow, rfl, -⟩ := h
  have hrow' : s.operations.get? row.operationId = some row := hrow
  unfold markOperation
  rw [hrow']
  exact ⟨{ row with status := .running, errorCode := none, updatedAt := now }, by simp [control, saveOperation], rfl,
    rfl⟩

theorem pending_markRunning (hp : s.control.Pending call) (now : Time) :
    (s.markOperation call.operation .running none now).control.Pending call := by
  obtain ⟨⟨row, hrow, hid, -, hdev, hkind⟩, hstored⟩ := hp
  have hrow' : s.operations.get? call.operation = some row := hrow
  unfold markOperation
  rw [hrow']
  refine pending_saveOperation hid rfl hdev hkind (fun hc r hr => ?_)
  obtain ⟨r', hr', -, hrd, hrk⟩ := hstored hc
  obtain rfl : r' = r := Option.some.inj (hr'.symm.trans hr)
  exact ⟨hrk.trans hkind.symm, hrd.trans hdev.symm⟩

theorem not_wanted_of_device {d : DeviceId} (h : s.store.device d = none) : ¬ s.control.Wanted d := by
  rintro ⟨-, hd⟩
  simp [control, h] at hd

theorem segment_beginProcedure (hr : Runs task n call) (hc : task.cancelled = false) (hv : Call.Valid call)
    (hp : s.control.Pending call) (hf : s.Fresh) (now : Time)
    (hg : call.action = .connect → s.recoveries.get? call.device = none → s.connectedDevice = some call.device →
      s.adapter.isConnected → G.found call.device s.tasks) :
    Segment G t task n s (s.beginProcedure t call now) := by
  unfold beginProcedure markRunning
  have hlive : s.control.Live call.operation := hp.1.imp (fun row h => ⟨h.1, h.2.1, h.2.2.1⟩)
  refine .head (.mark (hr.operation.imp_right (fun h => ⟨h.1, hc, h.2⟩)) .running none now hlive (by simp) (by simp)
    (by simp [hc])) ?_
  have hp' := pending_markRunning hp now
  obtain ⟨ops, S, he, hS⟩ := markOperation_eq (s := s) call.operation .running none now
  rw [he] at hp' ⊢
  have hf' : ({ s with operations := ops, store := S } : Service).Fresh := hf
  dsimp only
  split
  · rename_i hrow
    refine .finish call.operation hr.operation hc ?_ true now (segment_leave ?_ hc (fun _ => ?_) (fun _ => .inr ?_))
    · exact hp'.live
    · exact hr.imp_right (fun h => ⟨h.1, h.2.2.1⟩)
    · exact Relieved.finish hf' (.unwanted (not_wanted_of_device hrow))
    · rw [(finish_eq call.operation true now).2]
      exact hrow
  · rename_i row hrow
    have hread : S.device call.device = some row := hrow
    split
    · rename_i u hu
      have hrec : call.recovering = false := by
        cases hrec : call.recovering with
        | false => rfl
        | true => simp [hrec] at hu
      rw [hrec] at hu
      have hrole : task.frame.role = .procedure call := hr.elim id (fun h => by simp [hrec] at h)
      refine .head (.stopRecovery hu hrole hrec) (segment_wait (.stoppingRecovery u) rfl hr hc ?_ ?_ ⟨hv, ?_⟩)
      · exact hp'
      · exact .inr ⟨by simp [registry, stopRecovery, Service.cancel, hread],
          fun _ => by simp [stopRecovery, Service.cancel]⟩
      · simp [Point.connects]
    · rename_i hu
      have hnone : call.recovering = false → s.recoveries.get? call.device = none := by
        intro hrec
        rw [hrec] at hu
        exact hu
      have hb : Begun { s with operations := ops, store := S } task.frame call row :=
        .inr ⟨by simp [registry, hread], hnone⟩
      refine segment_recoveryStopped hr hc hv hp' hb hf' now (fun ha hd hk => hg ha (hnone ?_) hd hk)
      cases hrec : call.recovering with
      | true =>
        rw [hv hrec] at ha
        cases ha
      | false => rfl

structure Holds (t : TaskId) (task : Task) (call : Call) (row : DeviceRow) (s : Service) : Prop where
  frame : ∃ point, task.frame = .procedure call row point
  live : task.cancelled = false
  action : call.action ≠ .disconnect
  valid : Call.Valid call
  pending : s.control.Pending call
  lock : s.ioLock = some t

theorem Holds.role (h : Holds t task call row s) : task.frame.role = .procedure call := by
  obtain ⟨point, hf⟩ := h.frame
  rw [hf]
  rfl

theorem Holds.fail (h : Holds t task call row s) (stage : Stage) (e : Failure) (now : Time) :
    Segment G t task n s (s.release.fail t call stage e now) := by
  have hl : s.release.control.Live call.operation := h.pending.live
  exact .head (.release h.lock) (segment_fail ⟨row, h.frame⟩ h.live h.action hl stage e now)

theorem Holds.await (h : Holds t task call row s) (point : Point) (hd : point ≠ .disconnecting)
    (hk : ∀ l, point = .reading l → s.adapter.client = some l) :
    Segment G t task n s (s.await t call row point) :=
  segment_await (.inl h.role) h.live h.pending (.inl h.frame) ⟨h.valid, fun _ => h.action⟩ (fun _ => h.lock)
    (fun he => absurd he hd) hk

theorem Holds.waitLock (h : Holds t task call row s) :
    Segment G t task n s (s.release.await t call row .lockConnect) :=
  .head (.release h.lock)
    (segment_wait .lockConnect rfl (.inl h.role) h.live h.pending (.inl h.frame) ⟨h.valid, fun _ => h.action⟩)

theorem segment_readInitial (h : Holds t task call row s) (now : Time) :
    Segment G t task n s (s.readInitial t call row now) := by
  unfold readInitial
  split
  · rename_i link hl
    apply h.await
    · simp
    · rintro l ⟨⟩
      exact hl
  · exact h.fail _ _ _

theorem segment_connectTo (h : Holds t task call row s) {candidate : DiscoveredDevice}
    (hs : Selects s task.frame call.device candidate) (now : Time) :
    Segment G t task n s (s.connectTo t call row candidate now) := by
  have h' : Holds t task call row (s.logConnect call.device candidate) :=
    ⟨h.frame, h.live, h.action, h.valid, h.pending, h.lock⟩
  refine .head (.connectCalled hs h.live) ?_
  unfold connectTo
  dsimp only
  split
  · exact segment_readInitial h' now
  · split
    · apply h'.await <;> simp
    · exact h'.fail _ _ _

theorem segment_resolved (h : Holds t task call row s) {candidate : DiscoveredDevice}
    (hc : s.candidates.get? candidate.discoveryId = some candidate) (hi : candidate.identity = row.identity)
    (now : Time) : Segment G t task n s (s.resolved t call row candidate now) := by
  have h' : Holds t task call row
      (s.updateDevice call.device (fun row => { row with discoveryId := candidate.discoveryId })) := by
    exact ⟨h.frame, h.live, h.action, h.valid, h.pending, h.lock⟩
  obtain ⟨point, hf⟩ := h.frame
  refine .head (.select (hf ▸ .resolved h.action hc hi) h.live)
    (segment_connectTo h' (hf ▸ .resolved h.action ?_ hi) now)
  exact hc

theorem segment_lockConnect (hf : task.frame = .procedure call row .lockConnect) (hc : task.cancelled = false)
    (ha : call.action ≠ .disconnect) (hv : Call.Valid call) (hp : s.control.Pending call) (hl : s.ioLock = none)
    (now : Time) : Segment G t task n s (s.lockConnect t call row now) := by
  have h : Holds t task call row (s.acquire t) := ⟨⟨_, hf⟩, hc, ha, hv, hp, rfl⟩
  refine .head (.acquire hl) ?_
  unfold lockConnect
  dsimp only
  split
  · rename_i candidate hcandidate
    refine segment_connectTo h (hf ▸ .cached ha ?_) now
    split at hcandidate
    · cases hcandidate
    · exact hcandidate
  · apply h.await <;> simp

theorem segment_discovered (h : Holds t task call row s) (results : List Advertisement) (now : Time) :
    Segment G t task n s (s.discovered t call row results now) := by
  have h' : Holds t task call row (s.discover results) := ⟨h.frame, h.live, h.action, h.valid, h.pending, h.lock⟩
  refine .head (.discover results) ?_
  unfold discovered
  dsimp only
  split
  · exact h'.fail _ _ _
  · rename_i identity hid
    split
    · rename_i candidate hfound
      refine segment_resolved h' (candidates_discover (List.mem_of_find?_eq_some hfound)) ?_ now
      rw [hid]
      simpa using List.find?_some hfound
    · apply h'.await <;> simp

theorem segment_rediscovered (h : Holds t task call row s) (results : List Advertisement) (now : Time) :
    Segment G t task n s (s.rediscovered t call row results now) := by
  have h' : Holds t task call row (s.discover results) := ⟨h.frame, h.live, h.action, h.valid, h.pending, h.lock⟩
  refine .head (.discover results) ?_
  unfold rediscovered
  dsimp only
  split
  · rename_i candidate hfound
    refine segment_resolved h' (candidates_discover (List.mem_of_find?_eq_some hfound)) ?_ now
    simpa using List.find?_some hfound
  · exact h'.fail _ _ _

theorem touches_of_executes {d : DeviceId} (h : task.frame.role.executes d = true) :
    task.frame.role.touches d = true := by simp [Role.touches, Role.serves, h]

theorem segment_connected (h : Holds t task call row s) {candidate : DiscoveredDevice}
    (hf : task.frame = .procedure call row (.connecting candidate)) (now : Time) :
    Segment G t task n s (s.connected t call row candidate now) := by
  refine .head (.link hf h.lock) ?_
  have hT := TelemetryState.communicationSucceeded_confined s.telemetry call.device now s.adapter.source
  have h' : Holds t task call row
      { s with adapter := s.adapter.connect ⟨call.device, candidate⟩,
               telemetry := s.telemetry.communicationSucceeded call.device now s.adapter.source } :=
    ⟨h.frame, h.live, h.action, h.valid, h.pending, h.lock⟩
  have hseg : Segment G t task n _ (s.connected t call row candidate now) :=
    h'.await (.reading ⟨call.device, candidate⟩) (by simp) (by rintro l ⟨⟩; rfl)
  refine .touched _ (hT.mono ?_) hseg
  rintro d rfl
  exact .inl (touches_of_executes (executes_of_role h.role h.action))

theorem startPolling_store (d : DeviceId) : (s.startPolling d).store = s.store := by
  unfold startPolling
  dsimp only
  split <;> rfl

theorem startPolling_operations (d : DeviceId) : (s.startPolling d).operations = s.operations := by
  unfold startPolling
  dsimp only
  split <;> rfl

theorem segment_establish (h : Holds t task call row s) {link : Link}
    (hf : task.frame = .procedure call row (.reading link)) (hs : s.Fresh) (snapshot : DeviceSnapshot) (now : Time)
    (hg : call.recovering = true → G.commit call.device (s.control.desire call.device)) :
    Segment G t task n s ((s.establish call link snapshot now).complete t call now) := by
  have hx := executes_of_role h.role h.action
  refine .head (.release h.lock) ?_
  refine .head (.record call.device link snapshot now (.inl hx) (by rw [hf]; rfl) h.live) ?_
  refine .head (.connected hx) ?_
  refine .keep (((s.release.record call.device snapshot link now).setConnected (some call.device)).clearFailure)
    rfl rfl rfl ?_
  refine .head (.startPolling (d := call.device) hx rfl h.live) ?_
  unfold establish
  dsimp only
  generalize hm : ((s.release.record call.device snapshot link now).setConnected (some call.device)).clearFailure = m
  have hd : (m.startPolling call.device).control.desire = s.control.desire := by
    simp only [control, startPolling_store]
    subst hm
    rfl
  have hfresh : m.Fresh := by
    subst hm
    exact hs
  have hlive : (m.startPolling call.device).control.Live call.operation := by
    have hops : (m.startPolling call.device).operations = s.operations := by
      rw [startPolling_operations]
      subst hm
      rfl
    obtain ⟨op, hop, h'⟩ := h.pending.live
    exact ⟨op, by rw [control, hops]; exact hop, h'⟩
  refine .head (.commit (observedConnected (call.action = .reconnect)) h.role h.action h.live
    (fun hr => by rw [hd]; exact hg hr)) ?_
  refine segment_complete h.role h.live ?_ ?_ (.inl ⟨row, h.frame⟩) now (.polled ?_ ?_) (fun ha => absurd ha h.action)
  · exact hfresh.startPolling call.device
  · exact hlive
  · simp [h.role, Role.polls]
  · exact polled_startPolling call.device

theorem segment_lockDisconnect (hr : task.frame.role = .procedure call) (hc : task.cancelled = false)
    (hv : Call.Valid call) (hp : s.control.Pending call) (hb : Begun s task.frame call row) (hl : s.ioLock = none) :
    Segment G t task n s (s.lockDisconnect t call row) := by
  refine .head (.acquire hl) (.head .unlink ?_)
  unfold lockDisconnect
  refine segment_await (.inl hr) hc ?_ ?_ ⟨hv, ?_⟩ (fun _ => rfl) (fun _ => rfl) ?_
  · exact hp
  · exact hb
  · simp [Point.connects]
  · simp

theorem segment_disconnected (hf : task.frame = .procedure call row .disconnecting) (hc : task.cancelled = false)
    (hv : Call.Valid call) (hp : s.control.Pending call) (hl : s.ioLock = some t) (hk : s.adapter.client = none)
    (hs : s.Fresh) (now : Time) (hg : call.action = .disconnect → G.release call.device s.control) :
    Segment G t task n s (s.disconnected t call row now) := by
  have hr : task.frame.role = .procedure call := by rw [hf]; rfl
  unfold disconnected
  split
  · rename_i ha
    -- telemetry does not see the adapter being given up
    apply Segment.telemetry
      ((s.telemetry.connection call.device .disconnected now).heartbeatDisconnected call.device now)
    · exact (TelemetryState.connection_confined _ _ _ _).trans_known
        (TelemetryState.heartbeatDisconnected_confined _ _ _)
    · have hb : Halted s task.frame call := .inl ⟨row, _, hf⟩
      refine .head (.releaseAdapter row.discoveryId hr ha hk hl (hg ha) hb) ?_
      refine segment_complete hr hc ?_ ?_ ?_ now (.unwanted ?_) (fun _ => ?_)
      · exact hs
      · exact hp.live
      · exact hb
      · exact (unwanted_disconnected _ _).not_wanted
      · exact unwanted_disconnected _ _
  · rename_i ha
    have h : Holds t task call row s := ⟨⟨_, hf⟩, hc, ha, hv, hp, hl⟩
    split
    · apply h.await <;> simp
    · exact h.waitLock

structure Ready (t : TaskId) (task : Task) (s : Service) : Prop where
  fresh : s.Fresh
  lock : task.frame.holdsLock = true → s.ioLock = some t
  cut : task.frame.disconnecting = true → s.adapter.client = none
  valid : task.frame.Valid
  pending : s.control.Accounted task.frame.role
  unused : s.store.operations.get? s.nextOperation = none

theorem Ready.holds (h : Ready t task s) (hc : task.cancelled = false) {point : Point}
    (hf : task.frame = .procedure call row point) (hx : point.connects = true) (hl : point.holdsLock = true) :
    Holds t task call row s := by
  have hv : (Frame.procedure call row point).Valid := hf ▸ h.valid
  have hp : s.control.Accounted (Frame.procedure call row point).role := hf ▸ h.pending
  exact ⟨⟨point, hf⟩, hc, hv.2 hx, hv.1, hp, h.lock (by rw [hf]; exact hl)⟩

structure Resumable (G : Guards) (call : Call) (point : Point) (outcome : Outcome) (s : Service) : Prop where
  release : point = .disconnecting → call.action = .disconnect → G.release call.device s.control
  found : (∃ u, point = .stoppingRecovery u) → call.action = .connect → s.connectedDevice = some call.device →
    s.adapter.isConnected → G.found call.device s.tasks
  commit : (∃ link, point = .reading link) → (∃ snapshot, outcome = .read snapshot) → call.recovering = true →
    G.commit call.device (s.control.desire call.device)

theorem segment_resumeProcedure (R : Ready t task s) (hc : task.cancelled = false) {point : Point}
    (hf : task.frame = .procedure call row point) {outcome : Outcome} (hg : Resumable G call point outcome s)
    {now : Time} {s' : Service} (h : s.resumeProcedure t call row point outcome now = some s') :
    Segment G t task n s s' := by
  have hr : task.frame.role = .procedure call := by rw [hf]; rfl
  have hv : (Frame.procedure call row point).Valid := hf ▸ R.valid
  have hp : s.control.Accounted (.procedure call) := hr ▸ R.pending
  have hb : Begun s task.frame call row := .inl ⟨point, hf⟩
  unfold resumeProcedure at h
  split at h
  case h_1 task =>
    split at h <;> cases h
    exact segment_recoveryStopped (.inl hr) hc hv.1 hp hb R.fresh now (hg.found ⟨_, rfl⟩)
  case h_2 =>
    split at h <;> cases h
    exact segment_pollingStopped (.inl hr) hc hv.1 hp hb R.fresh now
  case h_3 =>
    split at h <;> cases h
    rename_i hl
    exact segment_lockDisconnect hr hc hv.1 hp hb (Option.isNone_iff_eq_none.mp hl)
  case h_4 =>
    cases h
    exact segment_disconnected hf hc hv.1 hp (R.lock (by rw [hf]; rfl)) (R.cut (by rw [hf]; rfl)) R.fresh now
      (hg.release rfl)
  case h_5 =>
    cases h
    exact (R.holds hc hf rfl rfl).waitLock
  case h_7 =>
    split at h <;> cases h
    rename_i hl
    exact segment_lockConnect hf hc (hv.2 rfl) hv.1 hp (Option.isNone_iff_eq_none.mp hl) now
  case h_8 =>
    cases h
    exact segment_discovered (R.holds hc hf rfl rfl) _ now
  case h_10 =>
    cases h
    have H := R.holds hc hf rfl rfl
    split
    · apply H.await <;> simp
    · exact H.fail _ _ _
  case h_12 =>
    cases h
    exact segment_rediscovered (R.holds hc hf rfl rfl) _ now
  case h_14 =>
    cases h
    exact segment_connected (R.holds hc hf rfl rfl) hf now
  case h_16 =>
    cases h
    exact segment_establish (R.holds hc hf rfl rfl) hf R.fresh _ now (hg.commit ⟨_, rfl⟩ ⟨_, rfl⟩)
  case h_18 => cases h
  all_goals
    cases h
    exact (R.holds hc hf rfl rfl).fail _ _ now

theorem segment_interruptProcedure (R : Ready t task s) (hc : task.cancelled = true) {point : Point}
    (hf : task.frame = .procedure call row point) {now : Time} {s' : Service}
    (h : s.interruptProcedure t call point now = some s') : Segment G t task n s s' := by
  have hr : task.frame.role = .procedure call := by rw [hf]; rfl
  have hlive : task.cancelled = false → Released G s.control task.frame.role := by simp [hc]
  have hp : s.control.Accounted (.procedure call) := hr ▸ R.pending
  have hend : ∀ m : Service, m.control.Live call.operation → Segment G t task n m
      (if call.recovering then (m.markInterrupted call.operation now).endRecovery t call.device
        else (m.markInterrupted call.operation now).endTask t) := by
    intro m hm
    refine .head (.mark (.inl (by rw [hr]; rfl)) .failed (some .interrupted) now hm (by simp) (by simp) (by simp [hf]))
      ?_
    by_cases hrec : call.recovering = true
    · simp only [hrec, ↓reduceIte]
      exact .park (.recovery (by simp [hr, Role.recovers, hrec]) (by simp [hc]))
    · simp only [hrec, Bool.false_eq_true, ↓reduceIte]
      exact .park (.done (by simp [hr, Role.recovers, hrec]) (by simp [hr]) (by simp [hc]) (by simp [hc]))
  unfold interruptProcedure at h
  split at h <;> cases h
  by_cases hl : point.holdsLock = true
  · simp only [hl, ↓reduceIte]
    exact .head (.release (R.lock (by rw [hf]; exact hl))) (hend s.release (Control.Pending.live hp))
  · simp only [hl, Bool.false_eq_true, ↓reduceIte]
    exact hend s (Control.Pending.live hp)

end Procedures

section Recovery

variable {d : DeviceId}

theorem segment_attempt (R : Ready t task s) (hc : task.cancelled = false) (hr : task.frame.role = .recovery d)
    (hw : s.control.Wanted d ∨ task.frame = .recovery d .sleeping ∧ G.wake d s.control) (now : Time) :
    Segment G t task s.nextOperation s (s.attempt t d now) := by
  have hruns : Runs task s.nextOperation ⟨s.nextOperation, d, .reconnect, true⟩ := .inr ⟨hr, rfl, rfl, le_rfl⟩
  refine .head (.attempt d hc hw) (.head (.create d now hr hc)
    (segment_beginProcedure hruns hc (fun _ => rfl) ?_ ?_ now ?_))
  · have hp : (s.saveOperation ⟨s.nextOperation, .reconnect, some d, .queued, now, now, none⟩).control.Pending
        ⟨s.nextOperation, d, .reconnect, true⟩ := by
      refine pending_saveOperation rfl rfl rfl rfl (fun _ r h => ?_)
      rw [R.unused] at h
      cases h
    exact hp
  · exact R.fresh
  · simp

theorem segment_resumeRecovery (R : Ready t task s) (hc : task.cancelled = false) {point : RecoveryPoint}
    (hf : task.frame = .recovery d point) (hg : point = .sleeping → G.wake d s.control) (now : Time) :
    Segment G t task s.nextOperation s (s.resumeRecovery t d point now) := by
  have hr : task.frame.role = .recovery d := by rw [hf]; rfl
  unfold resumeRecovery
  split
  · split
    · rename_i hw
      exact segment_attempt R hc hr (.inl (wanted_iff.mpr ((Bool.and_eq_true _ _).mp hw).2)) now
    · exact segment_recoverNext hc (.inl hr)
  · exact segment_attempt R hc hr (.inr ⟨hf, hg rfl⟩) now

end Recovery

end PitbluCore.Service
