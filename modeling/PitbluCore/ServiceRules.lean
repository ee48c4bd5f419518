import PitbluCore.ServiceInvariant

namespace PitbluCore.Service

open Library Relation

section Runs

variable {G : Guards} {J : Option TaskId → Service → Prop} {s s' : Service}

/-- A property that the steps keep; in the middle of a segment of a task it may make allowances for that task. -/
structure PreservedAt (G : Guards) (J : Option TaskId → Service → Prop) : Prop where
  begin : ∀ {t task s s' outcome now clock}, s.Coherent → s.tasks.get? t = some task → J none s →
    s.resume t outcome now clock = some s' → G.Promised s (.resume t outcome now clock) → J (some t) s
  move : ∀ {t task n s s'}, s.control.Coherent (some t) n → s.tasks.get? t = some task → J (some t) s →
    Move G t task n s s' → J (some t) s'
  park : ∀ {t task s m s' outcome now clock}, s.Coherent → s.tasks.get? t = some task → J none s →
    s.resume t outcome now clock = some s' → G.Promised s (.resume t outcome now clock) →
      m.control.Coherent (some t) s.nextOperation →
    m.tasks.get? t = some task → ReflTransGen (Move G t task s.nextOperation) s m → J (some t) m →
    Park G t task s.nextOperation m s' → J none s'
  request : ∀ {s s'}, s.Coherent → J none s → Request G s s' → J none s'
  restart : ∀ {s} now, s.Coherent → J none s → J none (s.successor.startDiscovery now)

structure Preserved (G : Guards) (J : Service → Prop) : Prop where
  move : ∀ {t task n s s'}, s.control.Coherent (some t) n → s.tasks.get? t = some task → J s →
    Move G t task n s s' → J s'
  park : ∀ {t task n s s'}, s.control.Coherent (some t) n → s.tasks.get? t = some task → J s →
    Park G t task n s s' → J s'
  request : ∀ {s s'}, s.Coherent → J s → Request G s s' → J s'
  restart : ∀ {s} now, s.Coherent → J s → J (s.successor.startDiscovery now)

theorem Preserved.at {J : Service → Prop} (h : Preserved G J) : PreservedAt G (fun _ => J) where
  begin _ _ hj _ _ := hj
  move := h.move
  park _ _ _ _ _ hc hk _ hj hp := h.park hc hk hj hp
  request := h.request
  restart := h.restart

theorem PreservedAt.requests (h : PreservedAt G J) (hc : s.Coherent) (hj : J none s)
    (hr : ReflTransGen (Request G) s s') : J none s' := by
  induction hr with
  | refl => exact hj
  | tail hrs hr ih => exact h.request (coherent_requests hc hrs) ih hr

theorem PreservedAt.moves {t : TaskId} {task : Task} (h : PreservedAt G J) (hc : s.Coherent)
    (hk : s.tasks.get? t = some task) (hj : J (some t) s) (hm : ReflTransGen (Move G t task s.nextOperation) s s') :
    J (some t) s' := by
  induction hm with
  | refl => exact hj
  | tail hms hm ih =>
    obtain ⟨hc', hk'⟩ := coherent_moves hc hk hms
    exact h.move hc' hk' ih hm

theorem PreservedAt.evolves (h : PreservedAt G J) (hc : s.Coherent) (hj : J none s) (he : Evolves G s s') :
    J none s' := by
  cases he with
  | @segment t task _ _ _ hk hs hG hseg =>
    obtain ⟨m, hm, hp⟩ := hseg
    obtain ⟨hc', hk'⟩ := coherent_moves hc hk hm
    exact h.park hc hk hj hs hG hc' hk' hm (h.moves hc hk (h.begin hc hk hj hs hG) hm) hp
  | request hr => exact h.requests hc hj hr
  | restart now hr => exact h.requests (coherent_create hc.stored now) (h.restart now hc hj) hr

theorem Booted.tasks {boot : Service} (h : Booted boot) : boot.tasks = Dict.empty := by
  obtain ⟨settings, store, T, id, nextOperation, -, -, rfl⟩ := h
  rfl

theorem Booted.coherent {boot : Service} (h : Booted boot) (now : Time) : (boot.startDiscovery now).Coherent := by
  obtain ⟨settings, store, T, id, nextOperation, -, hids, rfl⟩ := h
  exact coherent_create (fun id row hr => hids id (Dict.mem_keys_iff.mpr ⟨row, hr⟩)) now

theorem PreservedAt.reaches_of (h : PreservedAt G J) {init : Service → Prop} {guard : Service → Action → Prop}
    (hi : ∀ s, init s → ∃ boot now, Booted boot ∧ J none (boot.startDiscovery now) ∧ s = boot.start now)
    (hg : ∀ s a, guard s a → G.Promised s a) (hr : Reaches init step guard s) : s.Coherent ∧ J none s := by
  refine Reaches.invariant (I := fun s => s.Coherent ∧ J none s) ?_ ?_ hr
  · intro s hs
    obtain ⟨boot, now, hb, hj, rfl⟩ := hi s hs
    have hstart : ReflTransGen (Request G) (boot.startDiscovery now) (boot.start now) := request_start hb.tasks now
    exact ⟨coherent_requests (hb.coherent now) hstart, h.requests (hb.coherent now) hj hstart⟩
  · rintro s a s' ⟨hc, hj⟩ ha hs
    have he := evolves_step hc (hg s a ha) hs
    exact ⟨coherent_evolves hc he, h.evolves hc hj he⟩

theorem PreservedAt.reaches (h : PreservedAt G J) {init : Service → Prop} {guard : Service → Action → Prop}
    (hi : ∀ s, init s → Started s)
    (h0 : ∀ boot now, Booted boot → init (boot.start now) → J none (boot.startDiscovery now))
    (hg : ∀ s a, guard s a → G.Promised s a) (hr : Reaches init step guard s) : s.Coherent ∧ J none s := by
  refine h.reaches_of (fun s hs => ?_) hg hr
  obtain ⟨boot, now, hb, rfl⟩ := hi s hs
  exact ⟨boot, now, hb, h0 boot now hb hs, rfl⟩

theorem Preserved.reaches {J : Service → Prop} (h : Preserved G J) {init : Service → Prop}
    {guard : Service → Action → Prop} (hi : ∀ s, init s → Started s)
    (h0 : ∀ boot now, Booted boot → init (boot.start now) → J (boot.startDiscovery now))
    (hg : ∀ s a, guard s a → G.Promised s a) (hr : Reaches init step guard s) : s.Coherent ∧ J s :=
  h.at.reaches hi h0 hg hr

end Runs

section Steady

variable {s s' : Service}

structure Steady (s s' : Service) : Prop where
  connectedDevice : s'.connectedDevice = s.connectedDevice
  owner : s'.owner = s.owner
  desire : s'.control.desire = s.control.desire
  client : s'.adapter.client = s.adapter.client
  closing : s'.closing = s.closing
  trace : s'.trace = s.trace

theorem steady_of_control (h : s'.control = s.control) : Steady s s' :=
  ⟨congrArg Control.connectedDevice h, congrArg Control.owner h, congrArg Control.desire h, congrArg Control.client h,
    congrArg Control.closing h, congrArg Control.trace h⟩

theorem steady_markOperation (id : OperationId) (status : OperationStatus) (error : Option ErrorCode) (now : Time) :
    Steady s (s.markOperation id status error now) := by
  unfold markOperation
  split <;> exact ⟨rfl, rfl, rfl, rfl, rfl, rfl⟩

theorem steady_scheduleEvent (id : OperationId) : Steady s (s.scheduleEvent id) := by
  unfold scheduleEvent
  split <;> exact ⟨rfl, rfl, rfl, rfl, rfl, rfl⟩

theorem steady_scheduleRecovery (d : DeviceId) (immediate : Bool) : Steady s (s.scheduleRecovery d immediate) := by
  unfold scheduleRecovery
  split <;> exact ⟨rfl, rfl, rfl, rfl, rfl, rfl⟩

theorem steady_startPolling (d : DeviceId) : Steady s (s.startPolling d) := by
  unfold startPolling
  dsimp only
  split <;> exact ⟨rfl, rfl, rfl, rfl, rfl, rfl⟩

theorem steady_park {G : Guards} {t : TaskId} {task : Task} {n : OperationId} (hp : Park G t task n s s') :
    Steady s s' := by
  cases hp <;> exact ⟨rfl, rfl, rfl, rfl, rfl, rfl⟩

theorem desire_startDevice (now : Time) (row : DeviceRow) :
    (s.startDevice now row).control.desire = s.control.desire := by
  have hobs : ((s.registerHeartbeat row.deviceId row.desiredState now).setObserved row.deviceId
      .disconnected).control.desire = s.control.desire :=
    congrArg Control.desire (control_setObserved (s := s.registerHeartbeat _ _ now) _ _)
  unfold startDevice
  dsimp only
  split
  · exact (steady_scheduleRecovery _ true).desire.trans hobs
  · exact hobs

theorem desire_start (boot : Service) (now : Time) : (boot.start now).control.desire = boot.control.desire := by
  have hfold : ∀ (l : List DeviceRow) (m : Service),
      (l.foldl (fun s row => s.startDevice now row) m).control.desire = m.control.desire := by
    intro l
    induction l with
    | nil => exact fun _ => rfl
    | cons row l ih => exact fun m => (ih _).trans (desire_startDevice now row)
  exact hfold _ _

end Steady

section Tasks

variable {G : Guards} {s s' : Service} {t : TaskId} {task : Task} {n : OperationId} {P : Task → Prop}

def Each (s : Service) (P : Task → Prop) : Prop := ∀ u task, s.tasks.get? u = some task → P task

theorem Each.imp {Q : Task → Prop} (h : s.Each P) (hi : ∀ task, P task → Q task) : s.Each Q :=
  fun u task hk => hi task (h u task hk)

theorem Each.imp_of_mem {Q : Task → Prop} (h : s.Each P) (hi : ∀ u task, s.tasks.get? u = some task → P task → Q task) :
    s.Each Q := fun u task hk => hi u task hk (h u task hk)

theorem Each.of_tasks (h : s.Each P) (ht : s'.tasks = s.tasks) : s'.Each P := by
  intro u task hk
  rw [ht] at hk
  exact h u task hk

theorem Each.of_set (h : s.Each P) {f : Frame} (ht : s'.tasks = s.tasks.set s.nextTask ⟨f, false⟩)
    (hf : P ⟨f, false⟩) : s'.Each P := by
  intro u task hk
  rw [ht] at hk
  rcases Control.get?_spawn (c := s.control) hk with ⟨-, rfl⟩ | hk
  · exact hf
  · exact h u task hk

theorem Each.spawn (h : s.Each P) {f : Frame} (hf : P ⟨f, false⟩) : (s.spawn f).Each P := h.of_set rfl hf

theorem Each.cancel (h : s.Each P) (hc : ∀ task, P task → P task.cancel) (u : TaskId) : (s.cancel u).Each P := by
  intro v task hk
  simp only [Service.cancel, Dict.get?_modify] at hk
  split at hk
  · obtain ⟨old, hold, rfl⟩ := Option.map_eq_some_iff.mp hk
    exact hc old (h u old hold)
  · exact h v task hk

theorem Each.stopPolling (h : s.Each P) (hc : ∀ task, P task → P task.cancel) (d : DeviceId) (u : TaskId) :
    (s.stopPolling d u).Each P := h.cancel hc u

theorem Each.stopRecovery (h : s.Each P) (hc : ∀ task, P task → P task.cancel) (d : DeviceId) (u : TaskId) :
    (s.stopRecovery d u).Each P := h.cancel hc u

theorem Each.scheduleRecovery (h : s.Each P) {d : DeviceId} {immediate : Bool}
    (hf : s.control.Wanted d → P ⟨.recovery d (.starting immediate), false⟩) :
    (s.scheduleRecovery d immediate).Each P := by
  unfold Service.scheduleRecovery
  split
  · exact h
  · rename_i hw
    refine h.spawn (hf (wanted_iff.mpr ?_))
    simp only [Bool.or_eq_true, Bool.not_eq_true', not_or, Bool.not_eq_false] at hw
    exact hw.1

inductive Spawns (G : Guards) (s : Service) (task : Task) : Frame → Prop
  | event (row : OperationRow) : Spawns G s task (.event row)
  | recovery {d : DeviceId} (immediate : Bool)
      (h : task.frame.role.executes d ∨ task.frame.role.polls d ∨ task.frame.role = .pollingFailed d)
      (hc : task.cancelled = false) (hw : s.control.Wanted d)
      (hd : ∀ call, task.frame.role = .procedure call →
        (∃ row point, task.frame = .procedure call row point) ∧ call.recovering = false ∧
          ¬ s.control.Live call.operation)
      (hg : task.frame.role.executes d = false →
        G.rearm d s.tasks) : Spawns G s task (.recovery d (.starting immediate))
  | polling {d : DeviceId} (h : task.frame.role.executes d) (hd : s.connectedDevice = some d)
      (hc : task.cancelled = false) : Spawns G s task (.polling d .starting)

inductive Origin (s : Service) (new : Frame → Prop) (u : TaskId) (k : Task) : Prop
  | kept {old : Task} (h : s.tasks.get? u = some old) (hk : k = old ∨ k = old.cancel)
  | spawned {f : Frame} (hf : new f) (hk : k = ⟨f, false⟩)

def Arises (s : Service) (new : Frame → Prop) (s' : Service) : Prop :=
  ∀ u k, s'.tasks.get? u = some k → Origin s new u k

variable {new : Frame → Prop} {m : Service}

theorem Arises.of_tasks (ht : s'.tasks = s.tasks) : Arises s new s' := by
  intro u k hk
  rw [ht] at hk
  exact .kept hk (.inl rfl)

theorem Arises.cancel {u : TaskId} (ht : s'.tasks = (s.cancel u).tasks) : Arises s new s' := by
  intro v k hk
  simp only [ht, Service.cancel, Dict.get?_modify] at hk
  split at hk
  · obtain ⟨old, hold, rfl⟩ := Option.map_eq_some_iff.mp hk
    rename_i hv
    subst hv
    exact .kept hold (.inr rfl)
  · exact .kept hk (.inl rfl)

theorem Arises.spawn (h : Arises s new m) {f : Frame} (ht : s'.tasks = m.tasks.set m.nextTask ⟨f, false⟩) (hf : new f) :
    Arises s new s' := by
  intro u k hk
  rw [ht] at hk
  rcases Control.get?_spawn (c := m.control) hk with ⟨-, rfl⟩ | hk
  · exact .spawned hf rfl
  · exact h u k hk

theorem Arises.set {f : Frame} (ht : s'.tasks = s.tasks.set s.nextTask ⟨f, false⟩) (hf : new f) : Arises s new s' :=
  Arises.spawn (m := s) (.of_tasks rfl) ht hf

theorem Arises.scheduleRecovery (h : Arises s new m) {d : DeviceId} {immediate : Bool}
    (hf : m.control.Wanted d → m.recoveries.contains d = false → new (.recovery d (.starting immediate))) :
    Arises s new (m.scheduleRecovery d immediate) := by
  unfold Service.scheduleRecovery
  split
  · exact h
  · rename_i hw
    simp only [Bool.or_eq_true, Bool.not_eq_true', not_or, Bool.not_eq_false, Bool.not_eq_true] at hw
    exact h.spawn rfl (hf (wanted_iff.mpr hw.1) hw.2)

theorem arises_move (hm : Move G t task n s s') : Arises s (Spawns G s task) s' := by
  cases hm with
  | quiet hq => exact .of_tasks (congrArg Control.tasks hq.control)
  | mark _ status error now => exact .of_tasks (markOperation_tasks _ status error now)
  | event id =>
    rcases scheduleEvent_eq (s := s) id with he | ⟨row, he⟩
    · rw [he]
      exact .of_tasks rfl
    · rw [he]
      exact .set rfl (.event row)
  | scheduleRecovery d immediate hr hlive hd hg =>
    exact Arises.scheduleRecovery (.of_tasks rfl)
      (fun hw hn => .recovery immediate hr hlive hw hd (fun hx => hg hx hw hn))
  | @startPolling d hx hd hlive =>
    unfold Service.startPolling
    dsimp only
    split
    · rename_i u _
      exact Arises.spawn (m := s.stopPolling d u) (.cancel rfl) rfl (.polling hx hd hlive)
    · exact .set rfl (.polling hx hd hlive)
  | stopRecovery | stopPolling | cancel => exact .cancel rfl
  | _ => exact .of_tasks rfl

theorem Each.arises (h : s.Each P) (ha : Arises s new s') (hc : ∀ task, P task → P task.cancel)
    (hf : ∀ f, new f → P ⟨f, false⟩) : s'.Each P := by
  intro u k hk
  cases ha u k hk with
  | kept hold hk =>
    rcases hk with rfl | rfl
    · exact h u _ hold
    · exact hc _ (h u _ hold)
  | spawned hnew hk => exact hk ▸ hf _ hnew

theorem Each.move (h : s.Each P) (hm : Move G t task n s s') (hc : ∀ task, P task → P task.cancel)
    (hf : ∀ f, Spawns G s task f → P ⟨f, false⟩) : s'.Each P := h.arises (arises_move hm) hc hf

theorem Each.park (h : s.Each P) (hk : s.tasks.get? t = some task) (hp : Park G t task n s s')
    (hf : ∀ f, Suspends t task n s f → task.cancelled = false → P { task with frame := f }) : s'.Each P := by
  have hend : (s.endTask t).Each P := fun u k hk => h u k (get?_endTask hk).2
  cases hp with
  | suspend f hs hc =>
    intro u k hk'
    rcases get?_suspend hk' with ⟨rfl, old, hold, rfl⟩ | ⟨-, hold⟩
    · obtain rfl : task = old := Option.some.inj (hk.symm.trans hold)
      exact hf f hs hc
    · exact h u k hold
  | done _ _ _ _ | recovery _ _ | polling _ _ => exact hend

theorem get?_startDiscovery {boot : Service} (ht : boot.tasks = Dict.empty) {now : Time} {u : TaskId} {k : Task}
    (hk : (boot.startDiscovery now).tasks.get? u = some k) : k = ⟨.discovery .starting, false⟩ := by
  rcases Control.get?_spawn (c := boot.control) hk with ⟨-, rfl⟩ | hk
  · rfl
  · have hk' : boot.tasks.get? u = some k := hk
    rw [ht] at hk'
    cases hk'

inductive Starts (s : Service) : Frame → Prop
  | scan (id : OperationId) (hc : s.closing = false) : Starts s (.scan (.starting id))
  | registerHeartbeat {d : DeviceId} (hn : s.store.device d = none) : Starts s (.registerHeartbeat d .disconnected)
  | deletion (d : DeviceId) (point : DeletePoint) (hw : point.waited = [])
      (ha : ∀ w ∈ point.awaited, (∃ d', s.recoveries.get? d' = some w) ∨ ∃ d', s.pollingTasks.get? d' = some w) :
      Starts s (.deletion d point)
  | queued {d : DeviceId} {action : ConnectionAction} (hd : (s.store.device d).isSome)
      (hp : s.pendingOperation d = none) (ho : action = .disconnect ∨ s.owner = none ∨ s.owner = some d)
      (hc : s.closing = false) : Starts s (.queued ⟨s.nextOperation, d, action, false⟩)
  | closing (u : TaskId) : Starts s (.closing (.stoppingDiscovery u))
  | recovery {d : DeviceId} (ho : s.owner = none) (hw : s.control.Wanted d)
      (ht : ∀ u task call, s.tasks.get? u = some task → task.frame.role ≠ .procedure call) :
      Starts s (.recovery d (.starting true))

theorem arises_request (hr : Request G s s') : Arises s (Starts s) s' := by
  cases hr with
  | quiet hq => exact .of_tasks (congrArg Control.tasks hq.control)
  | startScan now hc => exact .set rfl (.scan _ hc)
  | register row hn => exact .set rfl (.registerHeartbeat hn)
  | @deleteRecovering d u _ hu =>
    refine Arises.spawn (m := s.stopRecovery d u) (.cancel rfl) rfl (.deletion d _ rfl (fun w hw => .inl ⟨d, ?_⟩))
    exact List.mem_singleton.mp hw ▸ hu
  | @deletePolling d u _ hu =>
    refine Arises.spawn (m := s.stopPolling d u) (.cancel rfl) rfl (.deletion d _ rfl (fun w hw => .inr ⟨d, ?_⟩))
    exact List.mem_singleton.mp hw ▸ hu
  | @deleteConnected d => exact .set rfl (.deletion d _ rfl (fun _ hw => by cases hw))
  | accept action now hd hp ho hc => exact .set rfl (.queued hd hp ho hc)
  | close => exact Arises.spawn (m := s.cancel s.discoveryTask) (.cancel rfl) rfl (.closing _)
  | @adopt d ho ht =>
    have hself : Arises s (Starts s) { s with owner := some d } := .of_tasks rfl
    exact hself.scheduleRecovery (fun hw _ => .recovery ho hw ht)
  | _ => exact .of_tasks rfl

theorem Each.request (h : s.Each P) (hr : Request G s s') (hc : ∀ task, P task → P task.cancel)
    (hf : ∀ f, Starts s f → P ⟨f, false⟩) : s'.Each P := h.arises (arises_request hr) hc hf

end Tasks

section Carries

variable {G : Guards} {s s' m : Service} {t u : TaskId} {task k : Task} {n : OperationId} {x : Option TaskId}

theorem lt_nextTask (hc : s.Coherent) (hk : s.tasks.get? u = some k) : u < s.nextTask := by
  by_contra hu
  cases (hc.fresh u (not_lt.mp hu)).symm.trans hk

structure Carries (x : Option TaskId) (s s' : Service) : Prop where
  kept : ∀ u k, x ≠ some u → s.tasks.get? u = some k →
    ∃ k', s'.tasks.get? u = some k' ∧ k'.frame = k.frame ∧ (k.Stopped → k'.Stopped)
  gone : ∀ u, u < s.nextTask → s.tasks.get? u = none → s'.tasks.get? u = none
  next : s.nextTask ≤ s'.nextTask

theorem Carries.of_same (ht : s'.tasks = s.tasks) (hn : s'.nextTask = s.nextTask) : Carries x s s' := by
  refine ⟨fun u k _ hk => ⟨k, ?_, rfl, id⟩, fun u _ hu => ?_, hn.ge⟩
  · rw [ht]
    exact hk
  · rw [ht]
    exact hu

theorem Carries.trans (h : Carries x s m) (h' : Carries x m s') : Carries x s s' := by
  refine ⟨fun u k hx hk => ?_, fun u hu hg => h'.gone u (hu.trans_le h.next) (h.gone u hu hg), h.next.trans h'.next⟩
  obtain ⟨k', hk', hf, hs⟩ := h.kept u k hx hk
  obtain ⟨k'', hk'', hf', hs'⟩ := h'.kept u k' hx hk'
  exact ⟨k'', hk'', hf'.trans hf, fun hk => hs' (hs hk)⟩

theorem Carries.of_spawn (h : s.Fresh) (f : Frame) (ht : s'.tasks = (s.spawn f).tasks)
    (hn : s'.nextTask = s.nextTask + 1) : Carries x s s' := by
  refine ⟨fun u k _ hk => ⟨k, ?_, rfl, id⟩, fun u hu hg => ?_, hn ▸ Nat.le_succ _⟩
  · have hne : u ≠ s.nextTask := by
      rintro rfl
      cases (h _ le_rfl).symm.trans hk
    rw [ht]
    simp [spawn, hne, hk]
  · rw [ht]
    simp [spawn, hu.ne, hg]

theorem Carries.of_cancel (v : TaskId) (ht : s'.tasks = (s.cancel v).tasks) (hn : s'.nextTask = s.nextTask) :
    Carries x s s' := by
  refine ⟨fun u k _ hk => ?_, fun u _ hg => ?_, hn.ge⟩
  · by_cases hu : u = v
    · subst hu
      exact ⟨k.cancel, by simp [ht, Service.cancel, hk], k.cancel_frame, Task.Stopped.cancel⟩
    · exact ⟨k, by simp [ht, Service.cancel, hu, hk], rfl, id⟩
  · rw [ht]
    simp only [Service.cancel, Dict.get?_modify]
    split
    · rename_i hu
      subst hu
      simp [hg]
    · exact hg

theorem park_others (hp : Park G t task n s s') :
    (∀ u, u ≠ t → s'.tasks.get? u = s.tasks.get? u) ∧ s'.nextTask = s.nextTask ∧ s'.ioLock = s.ioLock := by
  have hend : ∀ u, u ≠ t → (s.endTask t).tasks.get? u = s.tasks.get? u := fun u hu => by simp [Service.endTask, hu]
  cases hp with
  | suspend f => exact ⟨fun u hu => get?_suspend_ne hu f, rfl, rfl⟩
  | done | recovery | polling => exact ⟨hend, rfl, rfl⟩

theorem park_self (hp : Park G t task n s s') (hk : s.tasks.get? t = some task) {k : Task}
    (hk' : s'.tasks.get? t = some k) :
    task.cancelled = false ∧ k.cancelled = false ∧ Role.Handover n task.frame.role k.frame.role := by
  cases hp with
  | suspend f hs hc =>
    rcases get?_suspend hk' with ⟨-, old, hold, rfl⟩ | ⟨hne, -⟩
    · obtain rfl := Option.some.inj (hk.symm.trans hold)
      exact ⟨hc, hc, hs.role⟩
    · exact absurd rfl hne
  | done | recovery | polling => exact absurd rfl (get?_endTask hk').1

theorem stopped_resume (hk : s.tasks.get? t = some task) (hp : Park G t task n m s') (hm : m.tasks.get? t = some task)
    (hs : task.Stopped) {outcome : Outcome} {now clock : Time} (hr : s.resume t outcome now clock = some s') :
    s'.tasks.get? t = none := by
  refine Option.eq_none_iff_forall_ne_some.mpr (fun k hk' => ?_)
  have hlive := (park_self hp hm hk').1
  rcases hs with hs | ⟨e, hf⟩
  · cases hlive.symm.trans hs
  · unfold resume at hr
    rw [hk] at hr
    simp only [hlive, Bool.false_eq_true, ↓reduceIte, hf] at hr
    cases outcome with
    | resumed =>
      cases hr
      exact absurd rfl (get?_endTask hk').1
    | _ => cases hr

theorem carries_scheduleRecovery (h : s.Fresh) (d : DeviceId) (immediate : Bool) :
    Carries x s (s.scheduleRecovery d immediate) := by
  unfold scheduleRecovery
  split
  · exact .of_same rfl rfl
  · exact .of_spawn h _ rfl rfl

theorem carries_move (hc : s.control.Coherent (some t) n) (hm : Move G t task n s s') : Carries x s s' := by
  cases hm with
  | quiet hq => exact .of_same (congrArg Control.tasks hq.control) (congrArg Control.nextTask hq.control)
  | mark _ status error now =>
    unfold markOperation
    split <;> exact .of_same rfl rfl
  | event id =>
    rcases scheduleEvent_eq (s := s) id with he | ⟨row, he⟩
    · rw [he]
      exact .of_same rfl rfl
    · rw [he]
      exact .of_spawn hc.fresh _ rfl rfl
  | scheduleRecovery d immediate => exact carries_scheduleRecovery hc.fresh d immediate
  | @startPolling d =>
    unfold startPolling
    dsimp only
    split
    · rename_i u _
      have hstop : Carries x s (s.stopPolling d u) := .of_cancel u rfl rfl
      refine hstop.trans (.of_spawn ?_ (.polling d .starting) rfl rfl)
      exact Fresh.cancel (s := { s with pollingTasks := s.pollingTasks.erase d }) hc.fresh u
    · exact .of_spawn hc.fresh _ rfl rfl
  | @stopRecovery u | @stopPolling _ u | @cancel u => exact .of_cancel u rfl rfl
  | _ => exact .of_same rfl rfl

theorem carries_park (hp : Park G t task n s s') : Carries (some t) s s' := by
  obtain ⟨hother, hnext, -⟩ := park_others hp
  refine ⟨fun u k hx hk => ⟨k, ?_, rfl, id⟩, fun u _ hg => ?_, hnext.ge⟩
  · exact (hother u (fun he => hx (he ▸ rfl))).trans hk
  · refine Option.eq_none_iff_forall_ne_some.mpr (fun k hk => ?_)
    have hold : ∃ old, s.tasks.get? u = some old := by
      cases hp with
      | suspend f =>
        rcases get?_suspend hk with ⟨rfl, old, hold, -⟩ | ⟨-, hold⟩
        · exact ⟨old, hold⟩
        · exact ⟨k, hold⟩
      | done | recovery | polling => exact ⟨k, (get?_endTask hk).2⟩
    obtain ⟨old, hold⟩ := hold
    cases hg.symm.trans hold

theorem carries_request (hc : s.Coherent) (hr : Request G s s') : Carries x s s' := by
  cases hr with
  | quiet hq => exact .of_same (congrArg Control.tasks hq.control) (congrArg Control.nextTask hq.control)
  | startScan now => exact .of_spawn hc.fresh (.scan (.starting s.nextOperation)) rfl rfl
  | register row => exact .of_spawn hc.fresh (.registerHeartbeat row.deviceId .disconnected) rfl rfl
  | @deleteRecovering d u =>
    have hstop : Carries x s (s.stopRecovery d u) := .of_cancel u rfl rfl
    refine hstop.trans (.of_spawn ?_ (.deletion d (.stoppingRecovery u)) rfl rfl)
    exact Fresh.cancel (s := { s with recoveries := s.recoveries.erase d }) hc.fresh u
  | @deletePolling d u =>
    have hstop : Carries x s (s.stopPolling d u) := .of_cancel u rfl rfl
    refine hstop.trans (.of_spawn ?_ (.deletion d (.stoppingPolling [] u)) rfl rfl)
    exact Fresh.cancel (s := { s with pollingTasks := s.pollingTasks.erase d }) hc.fresh u
  | @deleteConnected d => exact .of_spawn hc.fresh (.deletion d (.lock [])) rfl rfl
  | @accept d action => exact .of_spawn hc.fresh (.queued ⟨s.nextOperation, d, action, false⟩) rfl rfl
  | close =>
    have hcancel : Carries x s ({ s with closing := true }.cancel s.discoveryTask) := .of_cancel s.discoveryTask rfl rfl
    refine hcancel.trans (.of_spawn ?_ (.closing (.stoppingDiscovery s.discoveryTask)) rfl rfl)
    exact Fresh.cancel (s := { s with closing := true }) hc.fresh s.discoveryTask
  | @adopt d =>
    have hself : Carries x s { s with owner := some d } := .of_same rfl rfl
    exact hself.trans (carries_scheduleRecovery (s := { s with owner := some d }) hc.fresh d true)
  | _ => exact .of_same rfl rfl

theorem carries_requests (hc : s.Coherent) (hr : ReflTransGen (Request G) s s') : Carries x s s' := by
  induction hr with
  | refl => exact .of_same rfl rfl
  | tail hrs hr ih => exact ih.trans (carries_request (coherent_requests hc hrs) hr)

theorem carries_segment (hc : s.Coherent) (hk : s.tasks.get? t = some task)
    (h : Segment G t task s.nextOperation s s') : Carries (some t) s s' := by
  obtain ⟨m, hm, hp⟩ := h
  refine Carries.trans (m := m) ?_ (carries_park hp)
  clear hp
  induction hm with
  | refl => exact .of_same rfl rfl
  | tail hms hm ih => exact ih.trans (carries_move (coherent_moves hc hk hms).1 hm)

theorem carries_step (hc : s.Coherent) {a : Action} (ha : ∀ now, a ≠ .restart now) (hs : s.step a = some s') :
    ∃ x, Carries x s s' ∧ ∀ t, x = some t → ∃ outcome now clock, s.resume t outcome now clock = some s' := by
  rcases proceeds_of_step (G := {}) (fun _ _ hk => hc.ready hk) {} ha hs with
    ⟨t, task, outcome, now, clock, hk, hr, -, hseg⟩ | hreq
  · refine ⟨some t, carries_segment hc hk hseg, ?_⟩
    rintro _ ⟨⟩
    exact ⟨outcome, now, clock, hr⟩
  · exact ⟨none, carries_requests hc hreq, by simp⟩

end Carries

end PitbluCore.Service
