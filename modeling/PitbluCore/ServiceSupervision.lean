import PitbluCore.ServiceOwnership

namespace PitbluCore

open Library

namespace Task

def supports (device : DeviceId) (task : Task) : Bool := task.frame.role.supports device && !task.cancelled

end Task

def Role.demands (device : DeviceId) : Role → Bool
  | .procedure call => !call.recovering && call.device = device
  | .deletion d => d = device
  | _ => false

def Task.backs (device : DeviceId) (task : Task) : Bool := task.supports device || task.frame.role.demands device

def Supported (device : DeviceId) (tasks : Dict TaskId Task) : Prop :=
  ∃ u task, tasks.get? u = some task ∧ task.supports device = true

namespace Role

variable {r : Role} {d d' : DeviceId}

theorem supports_of_polling (h : r = .polling d ∨ r = .pollingFailed d) (hs : r.supports d' = true) : d' = d := by
  rcases h with rfl | rfl <;> simpa [supports, recovers, polls, eq_comm] using hs

theorem supports_unique (h : r.recovers d = true) (hs : r.supports d' = true) : d' = d := by
  cases r with
  | procedure call | recovery =>
    simp only [supports, recovers, polls, reduceCtorEq, decide_false, Bool.or_false] at h hs
    simp_all
  | _ => cases h

theorem Handover.supports {n : OperationId} {r' : Role} (h : Handover n r r') (hs : r.supports d = true) :
    r'.supports d = true := by
  cases h with
  | same => exact hs
  | attempt d' hn => simpa [Role.supports, Role.recovers, Role.polls] using hs
  | retry hr => simpa [Role.supports, Role.recovers, Role.polls, hr] using hs
  | crash d' => simpa [Role.supports, Role.recovers, Role.polls] using hs

theorem Handover.demands {n : OperationId} {r' : Role} (h : Handover n r r') (hd : r.demands d = true) :
    r'.demands d = true := by
  cases h with
  | same => exact hd
  | retry hr => simp [Role.demands, hr] at hd
  | attempt | crash => cases hd

theorem not_supports_of_demands (h : r.demands d = true) : r.supports d' = false := by
  cases r with
  | procedure call =>
    simp only [demands, Bool.and_eq_true, Bool.not_eq_true'] at h
    simp [supports, recovers, polls, h.1]
  | deletion => rfl
  | _ => cases h

end Role

namespace Control

def NonePolled (c : Control) (device : DeviceId) : Prop :=
  ∀ u task, c.tasks.get? u = some task → task.frame.role = .polling device → task.cancelled = true

instance (c : Control) (d : DeviceId) : Decidable (c.NonePolled d) :=
  decidable_of_iff (∀ task ∈ c.tasks.values, task.frame.role = .polling d → task.cancelled = true)
    Dict.forall_values_iff

end Control

namespace Service

variable {s s' : Service} {t : TaskId} {task : Task} {n : OperationId} {d : DeviceId}

/-- Supervised, or in the hands of a request. -/
def Backed (s : Service) (d : DeviceId) : Prop := ∃ u task, s.tasks.get? u = some task ∧ task.backs d = true

section Tasks

theorem backs_of_supports (h : task.supports d = true) : task.backs d = true := by simp [Task.backs, h]

theorem backs_of_demands (h : task.frame.role.demands d = true) : task.backs d = true := by simp [Task.backs, h]

theorem Backed.of_tasks (h : s.Backed d) (ht : s'.tasks = s.tasks) : s'.Backed d := by
  obtain ⟨u, k, hk, hb⟩ := h
  exact ⟨u, k, by rw [ht]; exact hk, hb⟩

theorem Backed.of_set {x : Option TaskId} (hc : s.control.Coherent x n) (h : s.Backed d) {f : Frame}
    (ht : s'.tasks = s.tasks.set s.nextTask ⟨f, false⟩) : s'.Backed d := by
  obtain ⟨u, k, hk, hb⟩ := h
  have hs : (s.spawn f).tasks.get? u = some k := get?_spawn hc hk f
  exact ⟨u, k, by rw [ht]; exact hs, hb⟩

theorem backed_of_set {f : Frame} (ht : s'.tasks = s.tasks.set s.nextTask ⟨f, false⟩)
    (hf : (Task.mk f false).backs d = true) : s'.Backed d :=
  ⟨s.nextTask, ⟨f, false⟩, by rw [ht]; simp, hf⟩

theorem Backed.cancel (h : s.Backed d) {u : TaskId}
    (ho : ∀ k, s.tasks.get? u = some k → k.frame.role.supports d = true → (s.cancel u).Backed d) :
    (s.cancel u).Backed d := by
  obtain ⟨v, k, hk, hb⟩ := h
  by_cases hv : v = u
  · subst hv
    rcases (Bool.or_eq_true _ _).mp hb with hs | hd
    · exact ho k hk ((Bool.and_eq_true _ _).mp hs).1
    · exact ⟨v, k.cancel, by simp [Service.cancel, hk], backs_of_demands (by rw [Task.cancel_frame]; exact hd)⟩
  · exact ⟨v, k, get?_cancel_ne hv hk, hb⟩

theorem Backed.taken (h : s.Backed d) {u : TaskId} (hk : s.tasks.get? t = some task) (hne : t ≠ u)
    (hb : ∀ k, s.tasks.get? u = some k → k.frame.role.supports d = true → task.backs d = true) :
    (s.cancel u).Backed d :=
  h.cancel (fun k hu hs => ⟨t, task, get?_cancel_ne hne hk, hb k hu hs⟩)

end Tasks

def Polls (D : DeviceId) (connected : Option DeviceId) (task : Task) : Prop :=
  task.frame.role = .polling D → task.cancelled = false → connected = some D

def AutoReconnects (s : Service) (d : DeviceId) : Prop := ∀ row, s.store.device d = some row → row.autoReconnect = true

structure Watched (D : DeviceId) (s : Service) : Prop where
  owned : s.Owned
  polls : s.Each (Polls D s.connectedDevice)
  auto : ∀ desired auto, s.control.desire D = some (desired, auto) → auto = true
  backed : s.control.Wanted D → s.owner = some D → s.Backed D

def supervisionGuards (D : DeviceId) : Guards where
  release d c := c.Released d
  remove d c := c.owner = some d → c.Idle d
  clear _ c := c.NonePolled D
  found d tasks := d = D → Supported d tasks
  found_set := by
    intro d tasks t task h ht hd
    obtain ⟨u, k, hk, hs⟩ := h hd
    have hne : u ≠ t := by
      rintro rfl
      cases ht.symm.trans hk
    exact ⟨u, k, by simp [hne, hk], hs⟩
  keep d p := d = D → ∀ desired auto, p = some (desired, auto) → auto = true

theorem yielding_supervision (D : DeviceId) : Yielding (supervisionGuards D) := ⟨fun _ _ h => h, fun _ _ h => h⟩

variable {D : DeviceId}

theorem Polls.cancel {connected : Option DeviceId} (h : Polls D connected task) : Polls D connected task.cancel := by
  intro hr hc
  rw [Task.cancel_frame] at hr
  refine h hr ?_
  unfold Task.cancel at hc
  split at hc
  · exact hc
  · cases hc

theorem polls_of_spawns {f : Frame} (hf : Spawns G s task f) : Polls D s.connectedDevice ⟨f, false⟩ := by
  intro hr _
  cases hf with
  | polling hx hd =>
    cases hr
    exact hd
  | event | recovery => cases hr

theorem Watched.steady (h : s.Watched D) (hs : Steady s s') (ho : s'.Owned) (hp : s'.Each (Polls D s.connectedDevice))
    (hb : s.Backed D → s'.Backed D) : s'.Watched D := by
  refine ⟨ho, ?_, ?_, fun hw hown => hb (h.backed ?_ ?_)⟩
  · rw [hs.connectedDevice]
    exact hp
  · rw [hs.desire]
    exact h.auto
  · exact ⟨hs.closing.symm.trans hw.1, by rw [← hs.desire]; exact hw.2⟩
  · exact hs.owner.symm.trans hown

theorem Watched.removeDevice (h : s.Watched D) {now : Time} (ho : (s.removeDevice d now).Owned) :
    (s.removeDevice d now).Watched D := by
  refine ⟨ho, h.polls, fun desired auto hd => ?_, fun hw hown => ?_⟩
  · rw [desire_removeDevice] at hd
    exact h.auto desired auto (Option.ite_none_left_eq_some.mp hd).2
  · have hd := hw.2
    rw [desire_removeDevice] at hd
    refine h.backed ⟨hw.1, (Option.ite_none_left_eq_some.mp hd).2⟩ ?_
    have hown' : (if s.owner = some d then none else s.owner) = some D := hown
    exact (Option.ite_none_left_eq_some.mp hown').2

theorem auto_setDesired (h : ∀ desired auto, s.control.desire D = some (desired, auto) → auto = true)
    {desired desired' : DesiredState} {observed : ConnectionState} {auto : Bool}
    (hd : (s.setDesired d desired observed).control.desire D = some (desired', auto)) : auto = true := by
  rw [desire_setDesired] at hd
  split at hd
  · rename_i he
    obtain ⟨p, hp, he'⟩ := Option.map_eq_some_iff.mp hd
    cases he'
    exact h p.1 p.2 (by rw [he]; exact hp)
  · exact h desired' auto hd

theorem Watched.setDesired (h : s.Watched D) {desired : DesiredState} {observed : ConnectionState}
    (ho : (s.setDesired d desired observed).Owned) (hb : desired = .connected → D = d → s.Backed D) :
    (s.setDesired d desired observed).Watched D := by
  refine ⟨ho, h.polls, fun _ _ hd => auto_setDesired h.auto hd, fun hw hown => ?_⟩
  have hd := hw.2
  rw [desire_setDesired] at hd
  split at hd
  · rename_i he
    obtain ⟨p, -, he'⟩ := Option.map_eq_some_iff.mp hd
    exact hb (Prod.mk.inj he').1 he
  · exact h.backed ⟨hw.1, hd⟩ hown

theorem backed_startPolling (hc : s.control.Coherent (some t) n) (h : s.Backed D) (d : DeviceId) :
    (s.startPolling d).Backed D := by
  by_cases hD : D = d
  · obtain ⟨u, k, hk, hr, hlive⟩ := polled_startPolling (s := s) d
    exact ⟨u, k, hk, backs_of_supports (by simp [Task.supports, hr, hlive, Role.supports, Role.polls, hD])⟩
  · unfold startPolling
    dsimp only
    split
    · rename_i u hu
      have hstop : (s.stopPolling d u).Backed D := by
        refine h.cancel (fun k hk hs => ?_)
        obtain ⟨k', hk', hpoll⟩ := hc.pollingTasks d u hu
        obtain rfl : k = k' := Option.some.inj (hk.symm.trans hk')
        exact absurd (Role.supports_of_polling hpoll hs) hD
      exact hstop.of_set (coherent_stopPolling hc hu) rfl
    · exact h.of_set hc rfl

theorem Watched.move (hc : s.control.Coherent (some t) n) (hk : s.tasks.get? t = some task) (h : s.Watched D)
    (hm : Move (supervisionGuards D) t task n s s') : s'.Watched D := by
  have ho := h.owned.move (yielding_supervision D) hk hm
  have hp : s'.Each (Polls D s.connectedDevice) :=
    h.polls.move hm (fun _ hp => hp.cancel) (fun f hf => polls_of_spawns hf)
  cases hm with
  | quiet hq =>
    exact h.steady (steady_of_control hq.control) ho hp (fun hb => hb.of_tasks (congrArg Control.tasks hq.control))
  | select _ _ => exact h.steady (steady_of_control (control_select _ _)) ho hp (fun hb => hb.of_tasks rfl)
  | mark _ status error now _ =>
    exact h.steady (steady_markOperation _ status error now) ho hp (fun hb => hb.of_tasks (markOperation_tasks _ _ _ _))
  | event id =>
    refine h.steady (steady_scheduleEvent id) ho hp (fun hb => ?_)
    rcases scheduleEvent_eq (s := s) id with he | ⟨row, he⟩
    · rw [he]
      exact hb
    · rw [he]
      exact hb.of_set hc rfl
  | scheduleRecovery d immediate _ _ =>
    refine h.steady (steady_scheduleRecovery d immediate) ho hp (fun hb => ?_)
    unfold scheduleRecovery
    split
    · exact hb
    · exact hb.of_set hc rfl
  | @stopRecovery u call hu hr hrec =>
    have hne := ne_of_recoveries hc hk hu (by simp [hr, Role.recovers, hrec])
    refine ⟨ho, hp, h.auto, fun hw hown => (h.backed hw hown).taken hk hne (fun k hk' hs => ?_)⟩
    obtain ⟨k', hk'', hrec', -⟩ := hc.recoveries _ u hu
    obtain rfl : k = k' := Option.some.inj (hk'.symm.trans hk'')
    obtain rfl := Role.supports_unique hrec' hs
    exact backs_of_demands (by simp [hr, Role.demands, hrec])
  | @stopPolling d u hu hr hlive =>
    have hne := ne_of_pollingTasks hc hk hu (by rcases hr with ⟨call, hr, -⟩ | hr | hr <;> simp [hr])
    refine ⟨ho, hp, h.auto, fun hw hown => (h.backed hw hown).taken hk hne (fun k hk' hs => ?_)⟩
    obtain ⟨k', hk'', hpoll⟩ := hc.pollingTasks d u hu
    obtain rfl : k = k' := Option.some.inj (hk'.symm.trans hk'')
    obtain rfl := Role.supports_of_polling hpoll hs
    rcases hr with ⟨call, hr, rfl⟩ | hr | hr
    · cases hrec : call.recovering with
      | false => exact backs_of_demands (by simp [hr, Role.demands, hrec])
      | true => exact backs_of_supports (by simp [Task.supports, hr, Role.supports, Role.recovers, hrec, hlive])
    · exact backs_of_supports (by simp [Task.supports, hr, Role.supports, Role.recovers, hlive])
    · exact backs_of_demands (by simp [hr, Role.demands])
  | startPolling _ _ => exact h.steady (steady_startPolling _) ho hp (fun hb => backed_startPolling hc hb _)
  | @connected d hx =>
    refine ⟨ho, h.polls.imp_of_mem (fun u k hk' _ hr hlive => ?_), h.auto, h.backed⟩
    have hown := (h.owned.tasks t task hk).engaged d (Task.engages_of_executes hx)
    have hown' := (h.owned.tasks u k hk').engaged D (by simp [Task.engages, hr, Role.polls, hlive])
    exact hown.symm.trans hown'
  | @commit call observed hr ha hlive _ =>
    refine h.setDesired ho (fun _ hD => ⟨t, task, hk, ?_⟩)
    subst hD
    cases hrec : call.recovering with
    | false => exact backs_of_demands (by simp [hr, Role.demands, hrec])
    | true => exact backs_of_supports (by simp [Task.supports, hr, Role.supports, Role.recovers, hrec, hlive])
  | disconnected _ _ => exact h.setDesired ho (fun hd => by cases hd)
  | @releaseAdapter call id hr ha hcut hl hg =>
    refine ⟨ho, h.polls.imp_of_mem (fun u k hk' _ hrole hlive => ?_),
      fun _ _ hd => auto_setDesired (s := s.releaseAdapter id) h.auto hd, fun _ hown => by cases hown⟩
    have he : k.engages D = true := by simp [Task.engages, hrole, Role.polls, hlive]
    cases ((hg D ((h.owned.tasks u k hk').engaged D he)).1 u k hk').symm.trans he
  | remove now _ _ _ => exact h.removeDevice ho
  | removeConnected now _ _ _ _ hclear =>
    have hrel : (s.release.setConnected none).Watched D := by
      refine ⟨⟨fun d hd => (by cases hd), h.owned.tasks⟩, ?_, h.auto, h.backed⟩
      intro u k hk' hr hlive
      cases hlive.symm.trans (hclear u k hk' hr)
    exact hrel.removeDevice ho
  | @cancel u hu hr =>
    refine ⟨ho, hp, h.auto, fun hw _ => ?_⟩
    cases hw.1.symm.trans ((hc.tasks t task hk).closing hr)
  | _ => exact ⟨ho, hp, h.auto, h.backed⟩

theorem supported_of_relieved (hc : s.control.Coherent (some t) n) (hk : s.tasks.get? t = some task)
    (hw : s.control.Wanted D) (hr : Relieved (supervisionGuards D) task.frame.role s.control D) :
    ∃ u k, u ≠ t ∧ s.tasks.get? u = some k ∧ k.supports D = true := by
  have hself : ∀ k, s.tasks.get? t = some k → k = task := fun k hk' => Option.some.inj (hk'.symm.trans hk)
  cases hr with
  | unwanted hn => exact absurd hw hn
  | recovered hrec hcon =>
    obtain ⟨u, hu⟩ := Option.isSome_iff_exists.mp hcon
    obtain ⟨k, hk', hk'', hlive⟩ := hc.recoveries D u hu
    refine ⟨u, k, ?_, hk', by simp [Task.supports, Role.supports, hk'', hlive hw.1]⟩
    rintro rfl
    rw [hself k hk'] at hk''
    cases hrec.symm.trans hk''
  | found hs hf =>
    obtain ⟨u, k, hk', hk''⟩ := hf rfl
    refine ⟨u, k, ?_, hk', hk''⟩
    rintro rfl
    rw [hself k hk'] at hk''
    cases hs.symm.trans ((Bool.and_eq_true _ _).mp hk'').1
  | polled hp h =>
    obtain ⟨u, k, hk', hrole, hlive⟩ := h
    refine ⟨u, k, ?_, hk', by simp [Task.supports, hrole, Role.supports, Role.polls, hlive]⟩
    rintro rfl
    rw [← hself k hk', hrole] at hp
    simp [Role.polls] at hp

theorem Watched.relieved (hc : s.control.Coherent (some t) n) (hk : s.tasks.get? t = some task) (h : s.Watched D)
    (hw : s.control.Wanted D) (hb : task.backs D = true)
    (hr : task.cancelled = false → Released (supervisionGuards D) s.control task.frame.role) :
    Relieved (supervisionGuards D) task.frame.role s.control D := by
  have hlive : task.cancelled = false := by
    by_contra hcan
    have hcan' : task.cancelled = true := by simpa using hcan
    have hd : task.frame.role.demands D = true := by simpa [Task.backs, Task.supports, hcan'] using hb
    rcases (hc.tasks t task hk).cancelled hcan' with hcl | ⟨d, hs⟩
    · cases hw.1.symm.trans hcl
    · cases (Role.not_supports_of_demands hd).symm.trans hs
  have hpoll := h.polls t task hk
  specialize hr hlive
  simp only [Task.backs, Task.supports, hlive, Bool.not_false, Bool.and_true] at hb
  generalize hrole : task.frame.role = r at *
  cases r with
  | procedure call =>
    have hD : call.device = D := by
      simp only [Role.supports, Role.recovers, Role.polls, Role.demands, reduceCtorEq, decide_false, Bool.or_false,
        Bool.or_eq_true, Bool.and_eq_true, decide_eq_true_eq] at hb
      rcases hb with hb | hb <;> exact hb.2
    exact hD ▸ hr
  | recovery d =>
    obtain rfl : d = D := by simpa [Role.supports, Role.recovers, Role.polls, Role.demands] using hb
    exact hr
  | polling d =>
    obtain rfl : d = D := by simpa [Role.supports, Role.recovers, Role.polls, Role.demands] using hb
    exact hr.resolve_right (fun hn => hn (hpoll hrole hlive))
  | pollingFailed d =>
    obtain rfl : d = D := by simpa [Role.supports, Role.recovers, Role.polls, Role.demands] using hb
    exact hr
  | deletion d =>
    obtain rfl : d = D := by simpa [Role.supports, Role.recovers, Role.polls, Role.demands] using hb
    cases hr.symm.trans hw.2
  | _ => cases hb

theorem Watched.endTask (hc : s.control.Coherent (some t) n) (hk : s.tasks.get? t = some task) (h : s.Watched D)
    (hr : task.cancelled = false → Released (supervisionGuards D) s.control task.frame.role)
    (hw : s.control.Wanted D) (ho : s.owner = some D) : (s.endTask t).Backed D := by
  obtain ⟨v, k, hkv, hb⟩ := h.backed hw ho
  have hother : ∀ u k, u ≠ t → s.tasks.get? u = some k → k.backs D = true → (s.endTask t).Backed D := by
    intro u k hu hk hb
    exact ⟨u, k, by simp [Service.endTask, hu, hk], hb⟩
  by_cases hv : v = t
  · subst hv
    obtain rfl : k = task := Option.some.inj (hkv.symm.trans hk)
    obtain ⟨u, k', hu, hk', hs⟩ := supported_of_relieved hc hk hw (h.relieved hc hk hw hb hr)
    exact hother u k' hu hk' (backs_of_supports hs)
  · exact hother v k hv hkv hb

theorem Watched.park (hc : s.control.Coherent (some t) n) (hk : s.tasks.get? t = some task) (h : s.Watched D)
    (hp : Park (supervisionGuards D) t task n s s') : s'.Watched D := by
  have ho := h.owned.park hc hk hp
  have hpolls : s'.Each (Polls D s.connectedDevice) := by
    refine h.polls.park hk hp (fun f hf hlive hr _ => h.polls t task hk ?_ hlive)
    have hrole : f.role = .polling D := hr
    have hh := hf.role
    rw [hrole] at hh
    generalize task.frame.role = r at hh ⊢
    cases hh
    rfl
  cases hp with
  | suspend f hf hlive =>
    refine ⟨ho, hpolls, h.auto, fun hw hown => ?_⟩
    obtain ⟨v, k, hkv, hb⟩ := h.backed hw hown
    by_cases hv : v = t
    · subst hv
      obtain rfl : k = task := Option.some.inj (hkv.symm.trans hk)
      refine ⟨v, { k with frame := f }, get?_suspend_self hk f, ?_⟩
      simp only [Task.backs, Task.supports, hlive, Bool.not_false, Bool.and_true, Bool.or_eq_true] at hb ⊢
      exact hb.imp hf.role.supports hf.role.demands
    · exact ⟨v, k, (get?_suspend_ne hv f).trans hkv, hb⟩
  | done _ _ hr _ => exact ⟨ho, hpolls, h.auto, fun hw hown => h.endTask hc hk hr hw hown⟩
  | recovery _ hr => exact ⟨ho, hpolls, h.auto, fun hw hown => h.endTask hc hk hr hw hown⟩
  | polling _ hr => exact ⟨ho, hpolls, h.auto, fun hw hown => h.endTask hc hk hr hw hown⟩

section Requests

theorem polls_of_starts {f : Frame} {connected : Option DeviceId} (hf : Starts s f) : Polls D connected ⟨f, false⟩ := by
  intro hr _
  cases hf <;> cases hr

theorem backed_deleteRecovering (hc : s.Coherent) (h : s.Backed D) {u : TaskId} (hu : s.recoveries.get? d = some u) :
    ((s.stopRecovery d u).spawn (.deletion d (.stoppingRecovery u))).Backed D := by
  by_cases hD : D = d
  · exact backed_of_set (s := s.stopRecovery d u) rfl (backs_of_demands (by simp [Frame.role, Role.demands, hD]))
  · have hstop : (s.stopRecovery d u).Backed D := by
      refine h.cancel (fun k hk hs => ?_)
      obtain ⟨k', hk', hrec, -⟩ := hc.recoveries d u hu
      obtain rfl : k = k' := Option.some.inj (hk.symm.trans hk')
      exact absurd (Role.supports_unique hrec hs) hD
    have hcs : (s.stopRecovery d u).control.Coherent none s.nextOperation := Control.Coherent.stopRecovery hc hu
    exact hstop.of_set hcs rfl

theorem backed_deletePolling (hc : s.Coherent) (h : s.Backed D) {u : TaskId} (hu : s.pollingTasks.get? d = some u) :
    ((s.stopPolling d u).spawn (.deletion d (.stoppingPolling [] u))).Backed D := by
  by_cases hD : D = d
  · exact backed_of_set (s := s.stopPolling d u) rfl (backs_of_demands (by simp [Frame.role, Role.demands, hD]))
  · have hstop : (s.stopPolling d u).Backed D := by
      refine h.cancel (fun k hk hs => ?_)
      obtain ⟨k', hk', hpoll⟩ := hc.pollingTasks d u hu
      obtain rfl : k = k' := Option.some.inj (hk.symm.trans hk')
      exact absurd (Role.supports_of_polling hpoll hs) hD
    exact hstop.of_set (coherent_stopPolling hc hu) rfl

theorem auto_accept (h : ∀ desired auto, s.control.desire D = some (desired, auto) → auto = true)
    {action : ConnectionAction} {now : Time} {desired : DesiredState} {auto : Bool}
    (hd : (s.accept d action now).control.desire D = some (desired, auto)) : auto = true := by
  rw [desire_accept] at hd
  split at hd
  · rename_i he
    obtain ⟨p, hp, he'⟩ := Option.map_eq_some_iff.mp hd
    cases he'
    exact h p.1 p.2 (by rw [he]; exact hp)
  · exact h desired auto hd

theorem backed_accept (hc : s.Coherent) (h : s.control.Wanted D → s.owner = some D → s.Backed D)
    {action : ConnectionAction} {now : Time} (hw : (s.accept d action now).control.Wanted D)
    (hown : (s.accept d action now).owner = some D) : (s.accept d action now).Backed D := by
  by_cases hD : D = d
  · exact backed_of_set (s := s) (f := .queued ⟨s.nextOperation, d, action, false⟩) rfl
      (backs_of_demands (by simp [Frame.role, Role.demands, hD]))
  · have hd := hw.2
    rw [desire_accept, if_neg hD] at hd
    have hown' : (if action = .disconnect then s.owner else some d) = some D := hown
    have ho : s.owner = some D := by
      split at hown'
      · exact hown'
      · exact absurd (Option.some.inj hown').symm hD
    exact (h ⟨hw.1, hd⟩ ho).of_set hc (f := .queued ⟨s.nextOperation, d, action, false⟩) rfl

theorem backed_adopt (hc : ({ s with owner := some d }.scheduleRecovery d true).Coherent)
    (hw : ({ s with owner := some d }.scheduleRecovery d true).control.Wanted D)
    (hown : ({ s with owner := some d }.scheduleRecovery d true).owner = some D) :
    ({ s with owner := some d }.scheduleRecovery d true).Backed D := by
  have hD : d = D := by
    rw [(steady_scheduleRecovery d true).owner] at hown
    exact Option.some.inj hown
  subst hD
  have hr : Relieved (supervisionGuards d) .event _ d :=
    relieved_scheduleRecovery (s := { s with owner := some d }) (d := d) rfl true
  cases hr with
  | unwanted hn => exact absurd hw hn
  | recovered _ hcon =>
    obtain ⟨u, hu⟩ := Option.isSome_iff_exists.mp hcon
    obtain ⟨k, hk, hrec, hlive⟩ := hc.recoveries d u hu
    exact ⟨u, k, hk, backs_of_supports (by simp [Task.supports, Role.supports, hrec, hlive hw.1])⟩
  | found _ hf =>
    obtain ⟨u, k, hk, hs⟩ := hf rfl
    exact ⟨u, k, hk, backs_of_supports hs⟩
  | polled _ hp =>
    obtain ⟨u, k, hk, hrole, hlive⟩ := hp
    exact ⟨u, k, hk, backs_of_supports (by simp [Task.supports, hrole, Role.supports, Role.polls, hlive])⟩

theorem Watched.request (hc : s.Coherent) (h : s.Watched D) (hr : Request (supervisionGuards D) s s') :
    s'.Watched D := by
  have ho := h.owned.request (yielding_supervision D) hr
  have hc' := coherent_request hc hr
  have hp : s'.Each (Polls D s.connectedDevice) :=
    h.polls.request hr (fun _ hp => hp.cancel) (fun f hf => polls_of_starts hf)
  cases hr with
  | quiet hq =>
    exact h.steady (steady_of_control hq.control) ho hp (fun hb => hb.of_tasks (congrArg Control.tasks hq.control))
  | startScan now => exact ⟨ho, hp, h.auto, fun hw hown => (h.backed hw hown).of_set hc rfl⟩
  | register row hn hd hg =>
    have hdes := desire_register (s := s) D row (.registered row.deviceId :: s.trace)
    refine ⟨ho, hp, fun desired auto hp' => ?_, fun hw hown => ?_⟩
    · have hp'' := hdes.symm.trans hp'
      split at hp''
      · rename_i he
        cases hp''
        exact hg he.symm _ _ rfl
      · exact h.auto desired auto hp''
    · have hp'' := hdes.symm.trans hw.2
      split at hp''
      · rw [hd] at hp''
        cases hp''
      · exact (h.backed ⟨hw.1, hp''⟩ hown).of_set hc rfl
  | patch d patch candidate hg =>
    refine ⟨ho, hp, fun desired auto hp' => ?_, fun hw hown => (h.backed ⟨hw.1, ?_⟩ hown).of_tasks rfl⟩
    · by_cases hD : D = d
      · subst hD
        exact hg rfl desired auto hp'
      · rw [desire_patch, if_neg hD] at hp'
        exact h.auto desired auto hp'
    · have hdes := hw.2
      rw [desire_patch] at hdes
      split at hdes
      · rename_i hD
        obtain ⟨⟨desired, auto⟩, hp', he⟩ := Option.map_eq_some_iff.mp hdes
        rw [← hD] at hp'
        obtain rfl := h.auto desired auto hp'
        cases (Prod.mk.inj he).1
        exact hp'
      · exact hdes
  | deleteRecovering _ hu => exact ⟨ho, hp, h.auto, fun hw hown => backed_deleteRecovering hc (h.backed hw hown) hu⟩
  | deletePolling _ hu => exact ⟨ho, hp, h.auto, fun hw hown => backed_deletePolling hc (h.backed hw hown) hu⟩
  | deleteConnected _ => exact ⟨ho, hp, h.auto, fun hw hown => (h.backed hw hown).of_set hc rfl⟩
  | delete now _ _ _ _ => exact h.removeDevice ho
  | accept action now _ _ _ =>
    exact ⟨ho, hp, fun _ _ hd => auto_accept h.auto hd, fun hw hown => backed_accept hc h.backed hw hown⟩
  | close => exact ⟨ho, hp, h.auto, fun hw _ => by cases hw.1⟩
  | @adopt d hown =>
    have hs : Steady { s with owner := some d } _ := steady_scheduleRecovery d true
    refine ⟨ho, ?_, ?_, fun hw hown' => backed_adopt hc' hw hown'⟩
    · rw [hs.connectedDevice]
      exact hp
    · rw [hs.desire]
      exact h.auto
  | unlink | join _ _ => exact ⟨ho, hp, h.auto, h.backed⟩

end Requests

theorem watched_startDiscovery {boot : Service} (hd : boot.connectedDevice = none) (ht : boot.tasks = Dict.empty)
    (hown : boot.owner = none)
    (ha : ∀ desired auto, boot.control.desire D = some (desired, auto) → auto = true) (now : Time) :
    (boot.startDiscovery now).Watched D := by
  refine ⟨owned_startDiscovery hd ht now, Each.of_set (s := boot) (f := .discovery .starting) ?_ rfl ?_, ha,
    fun _ ho => ?_⟩
  · intro u task hk
    rw [ht] at hk
    cases hk
  · intro hr
    cases hr
  · cases hown.symm.trans ho

theorem preserved_watched (D : DeviceId) : Preserved (supervisionGuards D) (Watched D) where
  move hc hk h hm := h.move hc hk hm
  park hc hk h hp := h.park hc hk hp
  request hc h hr := h.request hc hr
  restart {s} now _ h := by
    have ha : ∀ desired auto, s.successor.control.desire D = some (desired, auto) → auto = true := h.auto
    exact watched_startDiscovery rfl rfl rfl ha now

def KeepsAuto (D : DeviceId) (s : Service) (a : Action) : Prop := ∀ s', s.step a = some s' → s'.AutoReconnects D

/-- Besides what ownership needs: a poll of the device is over before a deletion disconnects the adapter
under it, and a connect that finds the device connected finds it supervised. -/
structure Supervises (D : DeviceId) (s : Service) (a : Action) : Prop where
  yields : s.Yields a
  clear : s.clears a ≠ none → s.control.NonePolled D
  found : s.finds a = some D → Supported D s.tasks
  auto : KeepsAuto D s a

structure Expected (D : DeviceId) (s : Service) : Prop where
  desired : ∃ row, s.store.device D = some row ∧ row.desiredState = .connected
  owner : s.owner = some D
  closing : s.closing = false
  operations : ∀ id row, s.operations.get? id = some row → row.deviceId = some D → row.status.pending = false
  deletions : ∀ u task, s.tasks.get? u = some task → task.frame.role ≠ .deletion D

section Decidable

instance (D : DeviceId) (tasks : Dict TaskId Task) : Decidable (Supported D tasks) :=
  decidable_of_iff (¬ ∀ task ∈ tasks.values, task.supports D = false) (by
    rw [Dict.forall_values_iff]
    simp [Supported])

instance (D : DeviceId) (s : Service) : Decidable (s.AutoReconnects D) :=
  decidable_of_iff (∀ row ∈ s.store.device D, row.autoReconnect = true) Iff.rfl

instance (D : DeviceId) (s : Service) (a : Action) : Decidable (KeepsAuto D s a) :=
  decidable_of_iff (∀ s' ∈ s.step a, s'.AutoReconnects D) Iff.rfl

instance (D : DeviceId) (s : Service) (a : Action) : Decidable (s.Supervises D a) :=
  decidable_of_iff (s.Yields a ∧ (s.clears a ≠ none → s.control.NonePolled D) ∧
      (s.finds a = some D → Supported D s.tasks) ∧ KeepsAuto D s a)
    ⟨fun h => ⟨h.1, h.2.1, h.2.2.1, h.2.2.2⟩, fun h => ⟨h.yields, h.clear, h.found, h.auto⟩⟩

instance (D : DeviceId) (s : Service) : Decidable (s.Expected D) :=
  decidable_of_iff ((s.store.device D).any (fun row => row.desiredState = .connected) ∧ s.owner = some D ∧
      s.closing = false ∧ (∀ row ∈ s.operations.values, row.deviceId = some D → row.status.pending = false) ∧
      ∀ task ∈ s.tasks.values, task.frame.role ≠ .deletion D) (by
    rw [Dict.forall_values_iff, Dict.forall_values_iff, Option.any_eq_true]
    simp only [decide_eq_true_eq]
    exact ⟨fun h => ⟨h.1, h.2.1, h.2.2.1, h.2.2.2.1, h.2.2.2.2⟩,
      fun h => ⟨h.desired, h.owner, h.closing, h.operations, h.deletions⟩⟩)

end Decidable

theorem auto_iff : s.AutoReconnects D ↔ ∀ desired auto, s.control.desire D = some (desired, auto) → auto = true := by
  refine ⟨fun h desired auto hd => ?_, fun h row hr => h row.desiredState row.autoReconnect (by simp [control, hr])⟩
  obtain ⟨row, hr, he⟩ := Option.map_eq_some_iff.mp hd
  cases he
  exact h row hr

theorem Supervises.promised {a : Action} (h : s.Supervises D a) : (supervisionGuards D).Promised s a where
  release := h.yields.release
  remove := h.yields.remove
  clear d hd := h.clear (by simp [hd])
  found := by
    rintro d hd rfl
    exact h.found hd
  keep := by
    rintro s' hs d rfl
    exact auto_iff.mp (h.auto s' hs)

def Supervising (D : DeviceId) (s : Service) : Prop := Started s ∧ s.AutoReconnects D

theorem supervision_kept (h : Reaches (Supervising D) step (Supervises D) s) (he : s.Expected D) :
    Supported D s.tasks := by
  have hinv := (preserved_watched D).reaches (fun _ hs => hs.1) ?_ (fun _ _ hy => hy.promised) h
  · obtain ⟨hc, hw⟩ := hinv
    obtain ⟨row, hrow, hd⟩ := he.desired
    have hdes : s.control.desire D = some (.connected, row.autoReconnect) := by simp [control, hrow, hd]
    have hwanted : s.control.Wanted D := ⟨he.closing, hw.auto _ _ hdes ▸ hdes⟩
    obtain ⟨u, task, hk, hb⟩ := hw.backed hwanted he.owner
    rcases (Bool.or_eq_true _ _).mp hb with hs | hdem
    · exact ⟨u, task, hk, hs⟩
    · have hacc := (hc.tasks u task hk).accounted (by simp)
      have hne := he.deletions u task hk
      generalize task.frame.role = r at *
      cases r with
      | procedure call =>
        obtain ⟨op, hop, -, hp, hdev, -⟩ := hacc.1
        have hD : call.device = D := by
          simp only [Role.demands, Bool.and_eq_true, decide_eq_true_eq] at hdem
          exact hdem.2
        rw [hD] at hdev
        cases hp.symm.trans (he.operations call.operation op hop hdev)
      | deletion d =>
        have hD : d = D := by simpa [Role.demands] using hdem
        exact absurd (congrArg Role.deletion hD) hne
      | _ => cases hdem
  · rintro boot now ⟨settings, store, T, id, nextOperation, -, -, rfl⟩ hs
    refine watched_startDiscovery rfl rfl rfl ?_ now
    rw [← desire_start _ now]
    exact auto_iff.mp hs.2

theorem firstSession_supervising (D : DeviceId) : Supervising D firstSession :=
  ⟨firstSession_started, fun row hr => by cases hr⟩

def connectedTwice : List Action :=
  registerBoth ++
  [.startConnectionOperation "igrill-v202-a" .connect 0, go 3, go 3, .resume 3 .linked 0 0,
   .resume 3 (.read (TelemetryState.sampleSnapshot 0 1 Nat.one_pos)) 0 0,
   .startConnectionOperation "igrill-v202-a" .connect 0, go 6]

theorem supervision_kept_connectedTwice :
    ∃ s, replay step firstSession connectedTwice = some s ∧ Supported "igrill-v202-a" s.tasks := by
  have hrun : (replayIf (fun s a => decide (s.Supervises "igrill-v202-a" a)) step firstSession connectedTwice).any
      (fun s => decide (s.Expected "igrill-v202-a")) = true := by decide +kernel
  obtain ⟨s, hs, he⟩ := (Option.any_eq_true _ _).mp hrun
  have hr : Reaches (Supervising "igrill-v202-a") step (Supervises "igrill-v202-a") s :=
    .of_replayIf (fun _ _ => of_decide_eq_true) (.init (firstSession_supervising _)) hs
  exact ⟨s, replay_of_replayIf hs, supervision_kept hr (of_decide_eq_true he)⟩

theorem noBattery_range : ∀ p, (none : Option ℕ) = some p → p ≤ 100 := by
  rintro p ⟨⟩

def unavailableSnapshot (observedAt : Time) (sequence : ℕ) (h : 1 ≤ sequence) : DeviceSnapshot where
  model := "igrill-v202"
  probes := [⟨1, false, false, none, observedAt, sequence, .physical, some "AdapterError",
    TelemetryState.probeOne_range, h, by decide⟩]
  batteryPercent := none
  batteryAvailable := false
  observedAt := observedAt
  sequence := sequence
  source := .physical
  batteryObservedAt := some observedAt
  successfulCommunicationAt := none
  probe_count := ⟨le_refl 1, Nat.succ_le_succ (Nat.zero_le 3)⟩
  probe_numbers := by simp
  sequence_pos := h
  battery_range := noBattery_range
  battery_available := by rintro ⟨⟩

/-- A poll gives up while the adapter still has its link; the connect that follows stops the recovery
and, finding the device connected, starts nothing in its place. -/
def abandoned : List Action :=
  registerBoth ++
  [.startConnectionOperation "igrill-v202-a" .connect 0, go 3, go 3, .resume 3 .linked 0 0,
   .resume 3 (.read (TelemetryState.sampleSnapshot 0 1 Nat.one_pos)) 0 0, go 4, go 4, go 4,
   .resume 4 (.read (unavailableSnapshot 30000000 2 Nat.two_pos)) 30000000 30000000,
   .startConnectionOperation "igrill-v202-a" .connect 0, go 7, go 6, go 7]

theorem not_supervision_kept :
    ¬ ∀ D s, Reaches (Supervising D) step (KeepsAuto D) s → s.Expected D → Supported D s.tasks := by
  intro hall
  have hrun : (replayIf (fun s a => decide (KeepsAuto "igrill-v202-a" s a)) step firstSession abandoned).any
      (fun s => decide (s.Expected "igrill-v202-a" ∧ ¬ Supported "igrill-v202-a" s.tasks)) = true := by decide +kernel
  obtain ⟨s, hs, he⟩ := (Option.any_eq_true _ _).mp hrun
  obtain ⟨he, hn⟩ := of_decide_eq_true he
  have hr : Reaches (Supervising "igrill-v202-a") step (KeepsAuto "igrill-v202-a") s :=
    .of_replayIf (fun _ _ => of_decide_eq_true) (.init (firstSession_supervising _)) hs
  exact hn (hall _ s hr he)

end Service

end PitbluCore
