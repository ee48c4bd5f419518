import PitbluCore.ServiceRules

namespace PitbluCore

open Library

theorem ConnectionAction.kind_injective : Function.Injective ConnectionAction.kind := by
  intro a b h
  cases a <;> cases b <;> first | rfl | cases h

namespace Role

def requests (device : DeviceId) : Role → Bool
  | .procedure call => !call.recovering && call.device = device
  | _ => false

variable {r : Role} {d : DeviceId}

theorem requests_iff :
    r.requests d = true ↔ ∃ call, r = .procedure call ∧ call.recovering = false ∧ call.device = d := by
  cases r <;> simp [requests]

theorem Handover.requests {n : OperationId} {r' : Role} (h : Handover n r r') : r'.requests d = r.requests d := by
  cases h with
  | retry hr => simp [Role.requests, hr]
  | attempt => simp [Role.requests]
  | _ => rfl

theorem Handover.procedure {n : OperationId} {call : Call} (h : Handover n r (.procedure call))
    (hc : call.recovering = false) : r = .procedure call := by
  cases h with
  | same => rfl
  | attempt => cases hc

theorem Handover.requested {n : OperationId} {call : Call} (h : Handover n (.procedure call) r)
    (hc : call.recovering = false) : r = .procedure call := by
  cases h with
  | same => rfl
  | retry hr => cases hc.symm.trans hr

end Role

theorem Frame.requested_of_disconnect {f : Frame} (hv : f.Valid) {call : Call} (hr : f.role = .procedure call)
    (ha : call.action = .disconnect) : call.recovering = false := by
  cases f with
  | queued call' =>
    cases hr
    exact hv
  | procedure call' row point =>
    cases hr
    refine Bool.eq_false_iff.mpr (fun hrec => ?_)
    cases ha.symm.trans (hv.1 hrec)
  | _ => cases hr

namespace Task

variable {task : Task}

def Enlisted (active : Dict DeviceId OperationId) (task : Task) : Prop :=
  ∀ call, task.frame.role = .procedure call → call.recovering = false → active.get? call.device = some call.operation

theorem Enlisted.cancel {active : Dict DeviceId OperationId} (h : task.Enlisted active) :
    task.cancel.Enlisted active := by
  intro call hr
  rw [cancel_frame] at hr
  exact h call hr

theorem enlisted_of_not_request {active : Dict DeviceId OperationId} (h : ∀ d, task.frame.role.requests d = false) :
    task.Enlisted active := by
  intro call hr hc
  have hd := h call.device
  rw [hr] at hd
  simp [Role.requests, hc] at hd

theorem Stopped.cancelled (h : task.Stopped) {f : Role → Bool} (hf : ∀ d, f (.pollingFailed d) = false)
    (hr : f task.frame.role = true) : task.cancelled = true := by
  rcases h with h | ⟨d, hd⟩
  · exact h
  · rw [hd] at hr
    cases (hf d).symm.trans hr

end Task

namespace Service

variable {G : Guards} {s s' : Service} {t : TaskId} {task : Task} {n : OperationId} {d : DeviceId}

/-- The table names every live task that serves a device in such a role. -/
def Tabulates (s : Service) (f : DeviceId → Role → Bool) (table : Dict DeviceId TaskId) : Prop :=
  ∀ u task d, s.tasks.get? u = some task → f d task.frame.role = true → task.cancelled = false → table.get? d = some u

def Tabled (s : Service) : Prop := s.Tabulates Role.recovers s.recoveries

def Enrolled (s : Service) : Prop := s.Tabulates Role.polls s.pollingTasks

structure Procedures (s : Service) : Prop where
  enlisted : s.Each (Task.Enlisted s.active)
  tabled : s.Tabled

section Tables

variable {m : Service} {f : DeviceId → Role → Bool} {table table' : Dict DeviceId TaskId}

theorem Tabulates.of_tasks (h : s.Tabulates f table) (ht : s'.tasks = s.tasks) : s'.Tabulates f table := by
  unfold Tabulates at *
  rw [ht]
  exact h

theorem Tabulates.of_set (h : s.Tabulates f table) {frame : Frame}
    (ht : s'.tasks = s.tasks.set s.nextTask ⟨frame, false⟩)
    (hf : ∀ d, f d frame.role = false) : s'.Tabulates f table := by
  intro u k d hk hrole hlive
  rw [ht] at hk
  rcases Control.get?_spawn (c := s.control) hk with ⟨-, rfl⟩ | hk
  · cases (hf d).symm.trans hrole
  · exact h u k d hk hrole hlive

theorem Tabulates.start (h : s.Tabulates f table) (hn : table.get? d = none) {frame : Frame}
    (ht : s'.tasks = s.tasks.set s.nextTask ⟨frame, false⟩) (hf : ∀ d', f d' frame.role = true → d' = d) :
    s'.Tabulates f (table.set d s.nextTask) := by
  intro u k d' hk hrole hlive
  rw [ht] at hk
  rw [Dict.get?_set]
  rcases Control.get?_spawn (c := s.control) hk with ⟨rfl, rfl⟩ | hk
  · rw [if_pos (hf d' hrole)]
    rfl
  · have hold := h u k d' hk hrole hlive
    rw [if_neg, hold]
    rintro rfl
    cases hn.symm.trans hold

theorem Tabulates.cancel (hp : ∀ d d', f d (.pollingFailed d') = false) (h : s.Tabulates f table) (u : TaskId)
    (ht : m.tasks = (s.cancel u).tasks) (hr : ∀ d v, table.get? d = some v → v ≠ u → table'.get? d = some v) :
    m.Tabulates f table' := by
  intro v k d hk hrole hlive
  rw [ht] at hk
  obtain ⟨old, hold, hf, ho⟩ := Control.get?_cancel (c := s.control) hk
  by_cases hv : v = u
  · subst hv
    have hk' : k = old.cancel := by
      have hk' : (s.cancel v).tasks.get? v =
          some old.cancel := by simp [Service.cancel, show s.tasks.get? v = some old from hold]
      exact Option.some.inj (hk.symm.trans hk')
    have hstop : k.Stopped := hk' ▸ old.stopped_cancel
    cases hlive.symm.trans (hstop.cancelled (hp d) hrole)
  · obtain rfl : k = old := ho.resolve_right hv
    exact hr d v (h v k d hold hrole hlive) hv

theorem Tabulates.stop (hp : ∀ d d', f d (.pollingFailed d') = false) (h : s.Tabulates f table) {u : TaskId}
    (hu : table.get? d = some u) (ht : m.tasks = (s.cancel u).tasks) : m.Tabulates f (table.erase d) := by
  refine h.cancel hp u ht (fun d' v hv hne => ?_)
  rw [Dict.get?_erase, if_neg, hv]
  rintro rfl
  exact hne (Option.some.inj (hv.symm.trans hu))

theorem Tabulates.clear (hp : ∀ d d', f d (.pollingFailed d') = false) (h : s.Tabulates f table)
    (hc : ∀ d u k, table.get? d = some u → s.tasks.get? u = some k → k.Stopped) : s.Tabulates f table' := by
  intro u k d hk hrole hlive
  cases hlive.symm.trans ((hc d u k (h u k d hk hrole hlive) hk).cancelled (hp d) hrole)

theorem Tabulates.endTask (h : s.Tabulates f table) (t : TaskId) : (s.endTask t).Tabulates f table :=
  fun u k d hk hrole hlive => h u k d (get?_endTask hk).2 hrole hlive

theorem Tabulates.drop (h : s.Tabulates f table) (ht : s'.tasks = (s.endTask t).tasks) :
    s'.Tabulates f (if table.get? d = some t then table.erase d else table) := by
  intro u k d' hk hrole hlive
  rw [ht] at hk
  obtain ⟨hne, hold⟩ := get?_endTask hk
  have hd' := h u k d' hold hrole hlive
  split
  · rename_i hd
    rw [Dict.get?_erase, if_neg, hd']
    rintro rfl
    exact hne (Option.some.inj (hd'.symm.trans hd))
  · exact hd'

theorem Tabulates.suspend (h : s.Tabulates f table) (hk : s.tasks.get? t = some task) {frame : Frame}
    (hf : ∀ d, f d frame.role = true → f d task.frame.role = true) : (s.suspend t frame).Tabulates f table := by
  intro u k d hk' hrole hlive
  rcases get?_suspend hk' with ⟨rfl, old, hold, rfl⟩ | ⟨-, hold⟩
  · obtain rfl : task = old := Option.some.inj (hk.symm.trans hold)
    exact h u task d hk (hf d hrole) hlive
  · exact h u k d hold hrole hlive

theorem Tabulates.scheduleEvent (h : s.Tabulates f table) (hf : ∀ d, f d .event = false) (id : OperationId) :
    (s.scheduleEvent id).Tabulates f table := by
  rcases scheduleEvent_eq (s := s) id with he | ⟨row, he⟩
  · rw [he]
    exact h
  · rw [he]
    exact h.of_set rfl hf

theorem Tabled.scheduleRecovery (h : s.Tabled) (d : DeviceId) (immediate : Bool) :
    (s.scheduleRecovery d immediate).Tabled := by
  unfold Service.scheduleRecovery
  split
  · exact h
  · rename_i hw
    simp only [Bool.or_eq_true, not_or, Dict.contains, Bool.not_eq_true, Option.isSome_eq_false_iff,
      Option.isNone_iff_eq_none] at hw
    refine Tabulates.start h hw.2 rfl (fun d' hd => ?_)
    simpa [Frame.role, Role.recovers, eq_comm] using hd

theorem Tabled.startPolling (h : s.Tabled) (d : DeviceId) : (s.startPolling d).Tabled := by
  unfold Service.startPolling
  dsimp only
  split
  · rename_i u _
    have hstop : (s.stopPolling d u).Tabulates Role.recovers s.recoveries :=
      h.cancel (fun _ _ => rfl) u rfl (fun _ _ hv _ => hv)
    exact hstop.of_set rfl (fun _ => rfl)
  · exact h.of_set rfl (fun _ => rfl)

theorem Enrolled.startPolling (h : s.Enrolled) (d : DeviceId) : (s.startPolling d).Enrolled := by
  have hf : ∀ d', Role.polls d' (.polling d) = true → d' = d := by
    intro d' hd
    simpa [Role.polls, eq_comm] using hd
  unfold Service.startPolling
  dsimp only
  split
  · rename_i u hu
    have hstop : (s.stopPolling d u).Tabulates Role.polls (s.pollingTasks.erase d) := h.stop (fun _ _ => rfl) hu rfl
    exact hstop.start (by simp) rfl hf
  · rename_i hn
    exact Tabulates.start h hn rfl hf

theorem Tabled.move (h : s.Tabled) (hm : Move G t task n s s') : s'.Tabled := by
  have hp : ∀ d d', Role.recovers d (.pollingFailed d') = false := fun _ _ => rfl
  cases hm with
  | quiet hq =>
    have hr : s'.recoveries = s.recoveries := congrArg Control.recoveries hq.control
    unfold Tabled
    rw [hr]
    exact h.of_tasks (congrArg Control.tasks hq.control)
  | mark _ status error now =>
    have hr : ∀ id, (s.markOperation id status error now).recoveries = s.recoveries := by
      intro id
      unfold markOperation
      split <;> rfl
    unfold Tabled
    rw [hr]
    exact h.of_tasks (markOperation_tasks _ status error now)
  | event id =>
    have hr : (s.scheduleEvent id).recoveries = s.recoveries := by
      unfold Service.scheduleEvent
      split <;> rfl
    unfold Tabled
    rw [hr]
    exact h.scheduleEvent (fun _ => rfl) id
  | scheduleRecovery d immediate => exact h.scheduleRecovery d immediate
  | stopRecovery hu => exact h.stop hp hu rfl
  | @stopPolling d u => exact h.cancel hp u rfl (fun _ _ hv _ => hv)
  | startPolling => exact h.startPolling _
  | @cancel u => exact h.cancel hp u rfl (fun _ _ hv _ => hv)
  | clearRecoveries _ hc => exact (h.clear hp hc).of_tasks rfl
  | _ => exact h.of_tasks rfl

theorem Enrolled.move (h : s.Enrolled) (hm : Move G t task n s s') : s'.Enrolled := by
  have hp : ∀ d d', Role.polls d (.pollingFailed d') = false := fun _ _ => rfl
  cases hm with
  | quiet hq =>
    have hr : s'.pollingTasks = s.pollingTasks := congrArg Control.pollingTasks hq.control
    unfold Enrolled
    rw [hr]
    exact h.of_tasks (congrArg Control.tasks hq.control)
  | mark _ status error now =>
    have hr : ∀ id, (s.markOperation id status error now).pollingTasks = s.pollingTasks := by
      intro id
      unfold markOperation
      split <;> rfl
    unfold Enrolled
    rw [hr]
    exact h.of_tasks (markOperation_tasks _ status error now)
  | event id =>
    have hr : (s.scheduleEvent id).pollingTasks = s.pollingTasks := by
      unfold Service.scheduleEvent
      split <;> rfl
    unfold Enrolled
    rw [hr]
    exact h.scheduleEvent (fun _ => rfl) id
  | scheduleRecovery d immediate =>
    unfold Service.scheduleRecovery
    split
    · exact h
    · exact Tabulates.of_set h rfl (fun _ => rfl)
  | stopPolling hu => exact h.stop hp hu rfl
  | @stopRecovery u call => exact h.cancel hp u rfl (fun _ _ hv _ => hv)
  | startPolling => exact h.startPolling _
  | @cancel u => exact h.cancel hp u rfl (fun _ _ hv _ => hv)
  | clearPolling _ hc => exact (h.clear hp hc).of_tasks rfl
  | _ => exact h.of_tasks rfl

theorem Tabled.park (h : s.Tabled) (hk : s.tasks.get? t = some task) (hp : Park G t task n s s') : s'.Tabled := by
  cases hp with
  | suspend f hs hc => exact Tabulates.suspend h hk (fun d hd => hs.role.recovers.symm.trans hd)
  | done => exact Tabulates.endTask h t
  | recovery => exact Tabulates.drop h rfl
  | polling => exact Tabulates.endTask h t

theorem Enrolled.park (h : s.Enrolled) (hk : s.tasks.get? t = some task) (hp : Park G t task n s s') : s'.Enrolled := by
  cases hp with
  | suspend f hs hc =>
    refine Tabulates.suspend h hk (fun d hd => ?_)
    have hrole := hs.role
    generalize task.frame.role = r at hrole
    generalize f.role = r' at hd hrole
    cases hrole with
    | same => exact hd
    | _ => cases hd
  | done => exact Tabulates.endTask h t
  | recovery => exact Tabulates.endTask h t
  | polling => exact Tabulates.drop h rfl

theorem Tabled.request (h : s.Tabled) (hr : Request G s s') : s'.Tabled := by
  have hp : ∀ d d', Role.recovers d (.pollingFailed d') = false := fun _ _ => rfl
  cases hr with
  | quiet hq =>
    have hr : s'.recoveries = s.recoveries := congrArg Control.recoveries hq.control
    unfold Tabled
    rw [hr]
    exact h.of_tasks (congrArg Control.tasks hq.control)
  | startScan | register | deleteConnected | accept => exact h.of_set rfl (fun _ => rfl)
  | @deleteRecovering d u _ hu =>
    have hstop : (s.stopRecovery d u).Tabulates Role.recovers (s.recoveries.erase d) := h.stop hp hu rfl
    exact hstop.of_set rfl (fun _ => rfl)
  | @deletePolling d u =>
    have hstop : (s.stopPolling d u).Tabulates Role.recovers s.recoveries := h.cancel hp u rfl (fun _ _ hv _ => hv)
    exact hstop.of_set rfl (fun _ => rfl)
  | close =>
    have hcancel : (s.cancel s.discoveryTask).Tabulates Role.recovers s.recoveries :=
      h.cancel hp _ rfl (fun _ _ hv _ => hv)
    exact hcancel.of_set rfl (fun _ => rfl)
  | @adopt d =>
    have ho : ({ s with owner := some d } : Service).Tabled := h
    exact ho.scheduleRecovery d true
  | _ => exact h

theorem Enrolled.request (h : s.Enrolled) (hr : Request G s s') : s'.Enrolled := by
  have hp : ∀ d d', Role.polls d (.pollingFailed d') = false := fun _ _ => rfl
  cases hr with
  | quiet hq =>
    have hr : s'.pollingTasks = s.pollingTasks := congrArg Control.pollingTasks hq.control
    unfold Enrolled
    rw [hr]
    exact h.of_tasks (congrArg Control.tasks hq.control)
  | startScan | register | deleteConnected | accept => exact h.of_set rfl (fun _ => rfl)
  | @deleteRecovering d u =>
    have hstop : (s.stopRecovery d u).Tabulates Role.polls s.pollingTasks := h.cancel hp u rfl (fun _ _ hv _ => hv)
    exact hstop.of_set rfl (fun _ => rfl)
  | @deletePolling d u _ hu =>
    have hstop : (s.stopPolling d u).Tabulates Role.polls (s.pollingTasks.erase d) := h.stop hp hu rfl
    exact hstop.of_set rfl (fun _ => rfl)
  | close =>
    have hcancel : (s.cancel s.discoveryTask).Tabulates Role.polls s.pollingTasks :=
      h.cancel hp _ rfl (fun _ _ hv _ => hv)
    exact hcancel.of_set rfl (fun _ => rfl)
  | @adopt d =>
    unfold Service.scheduleRecovery
    split
    · exact h
    · exact Tabulates.of_set (s := { s with owner := some d }) h rfl (fun _ => rfl)
  | _ => exact h

end Tables

section Requests

variable {x : Option TaskId}

theorem pending_of_request (hc : s.control.Coherent x n) (h : s.Each (Task.Enlisted s.active)) {u : TaskId} {k : Task}
    (hx : x ≠ some u) (hk : s.tasks.get? u = some k) {call : Call} (hr : k.frame.role = .procedure call)
    (hrec : call.recovering = false) :
    ∃ row, s.pendingOperation call.device = some row ∧ row.kind = call.action.kind := by
  have ha := (hc.tasks u k hk).accounted hx
  rw [hr] at ha
  obtain ⟨⟨row, hrow, -, hlive, -, hkind⟩, -⟩ := ha
  refine ⟨row, ?_, hkind⟩
  have hrow' : s.operations.get? call.operation = some row := hrow
  simp [pendingOperation, h u k hk call hr hrec, hrow', hlive]

theorem request_unique (hc : s.control.Coherent x n) (h : s.Each (Task.Enlisted s.active)) {u v : TaskId} {k k' : Task}
    (hk : s.tasks.get? u = some k) (hk' : s.tasks.get? v = some k') (hr : k.frame.role.requests d = true)
    (hr' : k'.frame.role.requests d = true) : u = v := by
  obtain ⟨call, hcall, hrec, rfl⟩ := Role.requests_iff.mp hr
  obtain ⟨call', hcall', hrec', hd⟩ := Role.requests_iff.mp hr'
  have hop := h u k hk call hcall hrec
  have hop' := h v k' hk' call' hcall' hrec'
  rw [hd, hop] at hop'
  refine hc.unique u v k k' call.operation hk hk' (by rw [hcall]; rfl) ?_
  rw [hcall', Option.some.inj hop']
  rfl

theorem not_request_of_idle (hc : s.control.Coherent x n) (h : s.Each (Task.Enlisted s.active)) {u : TaskId} {k : Task}
    (hx : x ≠ some u) (hp : s.pendingOperation d = none) (hk : s.tasks.get? u = some k) :
    k.frame.role.requests d = false := by
  refine Bool.eq_false_iff.mpr (fun hr => ?_)
  obtain ⟨call, hcall, hrec, rfl⟩ := Role.requests_iff.mp hr
  obtain ⟨row, hrow, -⟩ := pending_of_request hc h hx hk hcall hrec
  cases hp.symm.trans hrow

theorem active_scheduleRecovery (d : DeviceId) (immediate : Bool) :
    (s.scheduleRecovery d immediate).active = s.active := by
  unfold scheduleRecovery
  split <;> rfl

theorem operations_scheduleRecovery (d : DeviceId) (immediate : Bool) :
    (s.scheduleRecovery d immediate).operations = s.operations := by
  unfold scheduleRecovery
  split <;> rfl

theorem operations_scheduleEvent (id : OperationId) : (s.scheduleEvent id).operations = s.operations := by
  unfold scheduleEvent
  split <;> rfl

theorem operations_markOperation_ne (hc : s.control.Coherent x n) {id j : OperationId} (hj : j ≠ id)
    (status : OperationStatus)
    (error : Option ErrorCode) (now : Time) :
    (s.markOperation id status error now).operations.get? j = s.operations.get? j := by
  unfold markOperation
  split
  · rfl
  · rename_i old hold
    simp [saveOperation, (hc.memory id old hold).1, hj]

theorem not_live_move (hc : s.control.Coherent (some t) n) (hm : Move G t task n s s') {id : OperationId} (hid : id < n)
    (h : ¬ s.control.Live id) : ¬ s'.control.Live id := by
  have hsame : s'.operations.get? id = s.operations.get? id → ¬ s'.control.Live id := by
    rintro he ⟨row, hrow, hrest⟩
    exact h ⟨row, he.symm.trans hrow, hrest⟩
  cases hm with
  | quiet hq => exact hsame (congrArg (·.get? id) (congrArg Control.operations hq.control))
  | @mark j _ status error now hl =>
    refine hsame (operations_markOperation_ne hc ?_ status error now)
    rintro rfl
    exact h hl
  | create d now =>
    have hne : id ≠ s.nextOperation := (lt_of_lt_of_le hid hc.bound).ne
    exact hsame (by simp [newOperation, saveOperation, hne])
  | event j => exact hsame (congrArg (·.get? id) (operations_scheduleEvent j))
  | scheduleRecovery d immediate => exact hsame (congrArg (·.get? id) (operations_scheduleRecovery d immediate))
  | startPolling => exact hsame (congrArg (·.get? id) (startPolling_operations _))
  | _ => exact h

theorem active_move (hm : Move G t task n s s') : s'.active = s.active := by
  cases hm with
  | quiet hq => exact congrArg Control.active hq.control
  | mark _ status error now =>
    unfold markOperation
    split <;> rfl
  | event id =>
    unfold scheduleEvent
    split <;> rfl
  | scheduleRecovery d immediate => exact active_scheduleRecovery d immediate
  | startPolling =>
    unfold startPolling
    dsimp only
    split <;> rfl
  | _ => rfl

theorem active_park (hp : Park G t task n s s') : s'.active = s.active := by
  cases hp <;> rfl

theorem Procedures.move (h : s.Procedures) (hm : Move G t task n s s') :
    s'.Procedures := by
  refine ⟨?_, h.tabled.move hm⟩
  rw [active_move hm]
  refine h.enlisted.move hm (fun _ hc => hc.cancel) (fun f hf => Task.enlisted_of_not_request (fun d => ?_))
  cases hf <;> rfl

theorem Procedures.park (hk : s.tasks.get? t = some task) (h : s.Procedures) (hp : Park G t task n s s') :
    s'.Procedures := by
  refine ⟨?_, h.tabled.park hk hp⟩
  rw [active_park hp]
  refine h.enlisted.park hk hp (fun f hs _ call hr hrec => ?_)
  have hrole : f.role = .procedure call := hr
  have hold := hs.role
  rw [hrole] at hold
  exact h.enlisted t task hk call (hold.procedure hrec) hrec

theorem Procedures.request (hc : s.Coherent) (h : s.Procedures) (hr : Request G s s') : s'.Procedures := by
  refine ⟨?_, h.tabled.request hr⟩
  have hother : ∀ f, (∀ d, f.role.requests d = false) → (Task.mk f false).Enlisted s.active :=
    fun f hf => Task.enlisted_of_not_request hf
  cases hr with
  | @accept d action now hd hp ho hclosing =>
    intro u k hk
    have hk' : (s.spawn (.queued ⟨s.nextOperation, d, action, false⟩)).tasks.get? u = some k := hk
    rcases Control.get?_spawn (c := s.control) hk' with ⟨-, rfl⟩ | hold
    · rintro call ⟨⟩ -
      simp [Service.accept, log, spawn, newOperation, saveOperation, updateDevice]
    · intro call hr hrec
      have hidle := not_request_of_idle hc h.enlisted (by simp) hp hold
      have hne : call.device ≠ d := by
        rintro rfl
        simp [hr, Role.requests, hrec] at hidle
      have hold' := h.enlisted u k hold call hr hrec
      simpa [Service.accept, log, spawn, newOperation, saveOperation, updateDevice, hne] using hold'
  | quiet hq =>
    have ha : s'.active = s.active := congrArg Control.active hq.control
    rw [ha]
    exact h.enlisted.of_tasks (congrArg Control.tasks hq.control)
  | startScan | register | deleteConnected => exact h.enlisted.of_set rfl (hother _ (fun _ => rfl))
  | deleteRecovering hp hu =>
    exact (h.enlisted.stopRecovery (fun _ hc => hc.cancel) _ _).spawn (hother _ (fun _ => rfl))
  | deletePolling hp hu => exact (h.enlisted.stopPolling (fun _ hc => hc.cancel) _ _).spawn (hother _ (fun _ => rfl))
  | close =>
    exact (h.enlisted.cancel (fun _ hc => hc.cancel) s.discoveryTask).of_set rfl (hother _ (fun _ => rfl))
  | @adopt d =>
    rw [active_scheduleRecovery]
    have ho : ({ s with owner := some d } : Service).Each (Task.Enlisted s.active) := h.enlisted
    exact ho.scheduleRecovery (fun _ => hother _ (fun _ => rfl))
  | _ => exact h.enlisted

theorem procedures_startDiscovery {boot : Service} (ht : boot.tasks = Dict.empty) (now : Time) :
    (boot.startDiscovery now).Procedures := by
  refine ⟨fun u k hk => ?_, fun u k d hk hr => ?_⟩
  · obtain rfl := get?_startDiscovery ht hk
    exact Task.enlisted_of_not_request (fun _ => rfl)
  · obtain rfl := get?_startDiscovery ht hk
    cases hr

end Requests

section Session

def connectFirst : List Action :=
  registerBoth ++
  [.startConnectionOperation "igrill-v202-a" .connect 0, go 3, go 3, .resume 3 .linked 0 0,
   .resume 3 (.read (TelemetryState.sampleSnapshot 0 1 Nat.one_pos)) 0 0]

/-- Its poll gives it up and task 6 recovers it; the attempt has a link and reads the first snapshot. -/
def recoverFirst : List Action :=
  connectFirst ++
  [go 4, go 4, go 4, .resume 4 (.raised ⟨"AdapterError", "read failed"⟩) 0 30000000, go 6, go 6, go 6, go 6,
   .resume 6 (.released true) 0 0, go 6, .resume 6 bothFound 0 0, .resume 6 .linked 0 0]

end Session

end Service

end PitbluCore
