import PitbluCore.ServiceParking

namespace PitbluCore.Service

open Library Relation

variable {G : Guards} {s s' m : Service} {x : Option TaskId} {n : OperationId} {d t u : TaskId} {task : Task}

section Steps

abbrev Founded (s : Service) : Prop := s.control.Founded none s.discoveryTask

theorem founded_park (hc : s.Coherent) (h : s.Founded) (hk : s.tasks.get? t = some task) {outcome : Outcome}
    {now clock : Time} (hr : s.resume t outcome now clock = some s')
    (hseg : Segment G t task s.nextOperation s s') : s'.Founded := by
  obtain ⟨m, hm, hp⟩ := hseg
  have hmo := founded_moves hc hk h hm
  have hkm := (coherent_moves hc hk hm).2
  have hpark := parked_resume hc h hk hr
  obtain ⟨hother, hnext, hlock⟩ := park_others hp
  have hne : ∀ u, u ≠ t → some t ≠ some u := fun u hu he => hu (Option.some.inj he).symm
  unfold Founded
  rw [hpark.discoveryTask]
  refine ⟨fun u _ hu => ?_, fun v k _ hv u hu => ?_, fun v k hv hcan => ?_, fun k hv => ?_, ?_⟩
  · by_cases hut : u = t
    · subst hut
      exact hpark.lock hu
    · obtain ⟨k, hk', hx⟩ := hmo.holder u (hne u hut) (hlock.symm.trans hu)
      exact ⟨k, (hother u hut).trans hk', hx⟩
  · by_cases hvt : v = t
    · subst hvt
      exact hpark.halts k hv u hu
    · have hhalt := hmo.halted v k (hne v hvt) ((hother v hvt).symm.trans hv) u hu
      refine ⟨hhalt.1, lt_of_lt_of_eq hhalt.2.1 hnext.symm, fun k' hk' => ?_⟩
      by_cases hut : u = t
      · subst hut
        cases (stopped_resume hk hp hkm (hhalt.2.2 task hkm).1 hr).symm.trans hk'
      · exact hhalt.2.2 k' ((hother u hut).symm.trans hk')
  · by_cases hvt : v = t
    · subst hvt
      cases (park_self hp hkm hv).2.1.symm.trans hcan
    · exact hmo.obeys v k ((hother v hvt).symm.trans hv) hcan
  · by_cases hdt : s.discoveryTask = t
    · rw [hdt] at hv
      have hrole := (park_self hp hkm hv).2.2
      rw [hmo.discovery task (hdt ▸ hkm)] at hrole
      generalize k.frame.role = r at hrole
      cases hrole
      rfl
    · exact hmo.discovery k ((hother _ hdt).symm.trans hv)
  · exact lt_of_lt_of_eq hmo.begun hnext.symm

theorem founded_same (h : s.Founded) (ht : s'.tasks = s.tasks) (hn : s'.nextTask = s.nextTask)
    (hl : s'.ioLock = s.ioLock) (hd : s'.discoveryTask = s.discoveryTask) : s'.Founded := by
  unfold Founded
  rw [hd]
  exact Control.Founded.of_same h ht hn (fun u _ hu => hl.symm.trans hu)

theorem founded_spawn (hc : s.control.Coherent x n) (h : s.Founded) (f : Frame)
    (hf : ∀ u ∈ f.awaited, s.control.Halts f u) : (s.spawn f).Founded := Control.Founded.spawn h hc.absent f hf

theorem founded_startScan (hc : s.Coherent) (h : s.Founded) {now : Time} {r : Service × OperationRow}
    (hr : s.startScan now = .ok r) : r.1.Founded := by
  unfold startScan at hr
  split at hr
  · cases hr
  · split at hr <;> cases hr
    · exact h
    · exact founded_spawn (coherent_newOperation hc .scan none now) (founded_same h rfl rfl rfl rfl) _
        (by simp [Frame.awaited])

theorem founded_register (hc : s.Coherent) (h : s.Founded) {id : DiscoveryId} {friendlyName : Option String}
    {automatic : Bool} {suffix : String} {now : Time} {r : Service × DeviceId}
    (hr : s.register id friendlyName automatic suffix now = .ok r) : r.1.Founded := by
  unfold register at hr
  split at hr
  · cases hr
  · split at hr
    · cases hr
    · dsimp only at hr
      generalize (if _ = "" then _ else _ : String) = device at hr
      split at hr <;> cases hr
      refine founded_spawn (x := none) (n := s.nextOperation) ?_ ?_ (.registerHeartbeat device .disconnected)
        (by simp [Frame.awaited])
      · exact hc.frame _ _ _ _
      · exact founded_same h rfl rfl rfl rfl

theorem founded_patchDevice (h : s.Founded) {e : DeviceId} {patch : DevicePatch} (hr : s.patchDevice e patch = .ok s') :
    s'.Founded := by
  unfold patchDevice at hr
  split at hr
  · cases hr
  · split at hr <;> cases hr
    exact founded_same h rfl rfl rfl rfl

theorem founded_deletion (hc : s.control.Coherent x n) (h : (s.cancel u).Founded) {f : Frame} (hf : f.awaited = [u])
    (ha : f.Asked) {k : Task} (hk : s.tasks.get? u = some k) (hs : f.Stops k.frame) :
    ((s.cancel u).spawn f).Founded := by
  have hu : u < s.nextTask := by
    by_contra hu
    cases (hc.fresh u (not_lt.mp hu)).symm.trans hk
  have hn : (s.cancel u).tasks.get? s.nextTask = none := by
    simp [Service.cancel, hu.ne', (show s.tasks.get? s.nextTask = none from hc.absent)]
  refine Control.Founded.spawn h hn f (fun v hv => ?_)
  rw [hf] at hv
  obtain rfl := List.mem_singleton.mp hv
  refine Control.halts_cancel (c := s.control) ha hu (fun k' hk' => ?_)
  obtain rfl := Option.some.inj (hk.symm.trans hk')
  exact hs

theorem founded_deleteDevice (hc : s.Coherent) (h : s.Founded) (e : DeviceId) (now : Time) :
    (s.deleteDevice e now).2.Founded := by
  have hview : (s.viewDevice e).Founded := founded_same h rfl rfl rfl rfl
  have hcview : (s.viewDevice e).Coherent := hc
  unfold deleteDevice
  split
  · exact h
  · dsimp only
    generalize s.viewDevice e = s at hview hcview
    split
    · exact hview
    · split
      · rename_i u hu
        obtain ⟨k, hk, hr, -⟩ := hcview.recoveries e u hu
        exact founded_deletion (hcview.clearRecovery (s.recoveries.erase e) (fun _ _ => Control.get?_erase_some))
          (founded_stopRecovery hcview hview hu) rfl trivial hk ⟨e, hr⟩
      · split
        · unfold deletePolling
          split
          · rename_i u hu
            obtain ⟨k, hk, hr⟩ := hcview.pollingTasks e u hu
            exact founded_deletion (hcview.clearPolling (s.pollingTasks.erase e) (fun _ _ => Control.get?_erase_some))
              (founded_stopPolling hcview hview hu) rfl trivial hk ⟨e, hr⟩
          · exact founded_spawn hcview hview _ (by simp [Frame.awaited, DeletePoint.awaited])
        · exact founded_same hview rfl rfl rfl rfl

theorem founded_startConnectionOperation (hc : s.Coherent) (h : s.Founded) {e : DeviceId} {action : ConnectionAction}
    {now : Time} {r : Service × OperationRow} (hr : s.startConnectionOperation e action now = .ok r) : r.1.Founded := by
  unfold startConnectionOperation at hr
  split at hr
  · cases hr
  · split at hr
    · cases hr
    · split at hr
      · split at hr <;> cases hr
        exact founded_same h rfl rfl rfl rfl
      · split at hr <;> cases hr
        refine Control.Founded.spawn (c := Service.control { s with }) ?_ hc.absent
          (.queued ⟨s.nextOperation, e, action, false⟩) (by simp [Frame.awaited]) |>.of_same rfl rfl (fun _ _ hu => hu)
        exact h

theorem founded_close (hc : s.Coherent) (h : s.Founded) : s.close.Founded := by
  have hshut : ({ s with closing := true } : Service).Founded := founded_same h rfl rfl rfl rfl
  have hn : (s.cancel s.discoveryTask).tasks.get? s.nextTask = none := by
    have hne : s.nextTask ≠ s.discoveryTask := (show s.discoveryTask < s.nextTask from h.begun).ne'
    simp [Service.cancel, hne, (show s.tasks.get? s.nextTask = none from hc.absent)]
  have hcancel := Control.Founded.cancel hshut s.discoveryTask (fun k hk => .inl ?_)
  · refine Control.Founded.spawn hcancel hn (.closing (.stoppingDiscovery s.discoveryTask)) (fun v hv => ?_)
    obtain rfl := List.mem_singleton.mp hv
    exact Control.halts_cancel trivial h.begun h.discovery
  · have hrole := h.discovery k hk
    generalize k.frame = f at hrole
    cases f <;> first | rfl | cases hrole

theorem founded_startDiscovery {boot : Service} (ht : boot.tasks = Dict.empty) (hn : boot.nextTask = 0)
    (hl : boot.ioLock = none) (now : Time) : (boot.startDiscovery now).Fresh ∧ (boot.startDiscovery now).Founded := by
  have hget : ∀ {u k}, (boot.startDiscovery now).tasks.get? u = some k → u = 0 ∧ k = ⟨.discovery .starting, false⟩ := by
    intro u k hk
    simp only [startDiscovery, spawn, ht, hn, Dict.get?_set] at hk
    split at hk
    · rename_i hu
      exact ⟨hu, (Option.some.inj hk).symm⟩
    · cases hk
  have hnext : (boot.startDiscovery now).nextTask = 1 := by simp [startDiscovery, spawn, hn]
  refine ⟨fun u hu => Option.eq_none_iff_forall_ne_some.mpr (fun k hk => ?_), ?_, ?_, ?_, ?_, ?_⟩
  · rw [hnext, (hget hk).1] at hu
    exact absurd hu (by simp)
  · intro u _ hu
    cases (show boot.ioLock = some u from hu).symm.trans hl
  · intro t k _ hk u hu
    rw [(hget hk).2] at hu
    cases hu
  · intro t k hk hc
    rw [(hget hk).2] at hc
    cases hc
  · intro k hk
    rw [(hget hk).2]
    rfl
  · exact (show boot.nextTask < boot.nextTask + 1 from Nat.lt_succ_self _)

theorem founded_startDevice (hf : s.Fresh) (h : s.Founded) (now : Time) (row : DeviceRow) :
    (s.startDevice now row).Fresh ∧ (s.startDevice now row).Founded := by
  have hsame : ∀ m : Service, m.tasks = s.tasks → m.nextTask = s.nextTask → m.ioLock = s.ioLock →
      m.discoveryTask = s.discoveryTask → m.Fresh ∧ m.Founded := by
    intro m ht hn hl hd
    refine ⟨fun u hu => ?_, founded_same h ht hn hl hd⟩
    rw [ht]
    exact hf u (hn ▸ hu)
  unfold startDevice
  dsimp only
  split
  · generalize hm : ({ Service.setObserved _ row.deviceId .disconnected with owner := some row.deviceId } : Service) = m
    obtain ⟨hf', h'⟩ := hsame m (by rw [← hm]; rfl) (by rw [← hm]; rfl) (by rw [← hm]; rfl) (by rw [← hm]; rfl)
    have ho : (m.scheduleRecovery row.deviceId true).control.Founded none m.discoveryTask :=
      founded_scheduleRecovery hf' h' _ true
    refine ⟨?_, by unfold Founded; rw [(aside_scheduleRecovery _ true).discoveryTask]; exact ho⟩
    unfold scheduleRecovery
    split
    · exact hf'
    · exact Fresh.spawn (s := { m with recoveries := _ }) hf' _
  · exact hsame _ rfl rfl rfl rfl

theorem founded_start {boot : Service} (ht : boot.tasks = Dict.empty) (hn : boot.nextTask = 0)
    (hl : boot.ioLock = none) (now : Time) : (boot.start now).Founded := by
  have hfold : ∀ (rows : List DeviceRow) (m : Service), m.Fresh → m.Founded →
      (rows.foldl (fun s row => s.startDevice now row) m).Founded := by
    intro rows
    induction rows with
    | nil => exact fun m _ h => h
    | cons row rows ih =>
      intro m hf h
      obtain ⟨hf', h'⟩ := founded_startDevice hf h now row
      exact ih _ hf' h'
  obtain ⟨hf, h⟩ := founded_startDiscovery ht hn hl now
  exact hfold _ _ hf h

theorem founded_step (hc : s.Coherent) (h : s.Founded) {a : Action} (hs : s.step a = some s') : s'.Founded := by
  cases a with
  | startScan now =>
    cases hs
    cases hr : s.startScan now with
    | error e => exact h
    | ok r => exact founded_startScan hc h hr
  | register id friendlyName automatic suffix now =>
    cases hs
    cases hr : s.register id friendlyName automatic suffix now with
    | error e => exact h
    | ok r => exact founded_register hc h hr
  | patchDevice e patch =>
    cases hs
    cases hr : s.patchDevice e patch with
    | error e => exact h
    | ok r => exact founded_patchDevice h hr
  | deleteDevice e now =>
    cases hs
    exact founded_deleteDevice hc h e now
  | startConnectionOperation e action now =>
    cases hs
    cases hr : s.startConnectionOperation e action now with
    | error e => exact h
    | ok r => exact founded_startConnectionOperation hc h hr
  | viewDevice e =>
    simp only [step] at hs
    split at hs <;> cases hs
    · exact founded_same h rfl rfl rfl rfl
    · exact h
  | close =>
    simp only [step] at hs
    split at hs <;> cases hs
    exact founded_close hc h
  | restart now =>
    cases hs
    exact founded_start rfl rfl rfl now
  | resume t outcome now clock =>
    obtain ⟨task, hk, hseg⟩ := segment_resume (G := {}) (fun _ _ hk => hc.ready hk) {} hs
    exact founded_park hc h hk hs hseg
  | linkLost =>
    cases hs
    exact founded_same h rfl rfl rfl rfl
  | staleDeadline e now =>
    obtain ⟨T, -, rfl⟩ := Option.map_eq_some_iff.mp hs
    exact founded_same h rfl rfl rfl rfl
  | heartbeatDeadline e now =>
    obtain ⟨T, -, rfl⟩ := Option.map_eq_some_iff.mp hs
    exact founded_same h rfl rfl rfl rfl

end Steps

section Waits

def Runnable (s : Service) (t : TaskId) : Prop := ∃ outcome now clock, (s.resume t outcome now clock).isSome = true

/-- Task `t` goes on only after `u` has ended or has left the lock. -/
def WaitsFor (s : Service) (t u : TaskId) : Prop :=
  ∃ k k', s.tasks.get? t = some k ∧ s.tasks.get? u = some k' ∧
    (u ∈ k.frame.awaited ∨ k.cancelled = false ∧ k.frame.queues = true ∧ s.ioLock = some u)

def taskDepth (k : Task) : ℕ := if k.frame.queues && !k.cancelled then 1 else k.frame.depth

variable {k : Task}

theorem Founded.asked (h : s.Founded) (hk : s.tasks.get? t = some k) : k.frame.Asked := by
  cases hf : k.frame with
  | procedure call row point =>
    cases point with
    | stoppingRecovery w => exact hf ▸ (h.halted t k (by simp) hk w (by simp [hf, Frame.awaited, Point.awaited])).1
    | _ => trivial
  | _ => trivial

theorem taskDepth_stopped (hs : k.Stopped) : taskDepth k = k.frame.depth := by
  unfold taskDepth
  rcases hs with hs | ⟨e, hf⟩
  · simp [hs]
  · simp [hf, Frame.queues]

theorem depth_stops {f g : Frame} {v : TaskId} (hv : v ∈ f.awaited) (hs : f.Stops g) (ha : g.Asked) :
    g.depth < f.depth := by
  have hrec : (∃ e, g.role.recovers e = true) → g.depth < 2 := by
    rintro ⟨e, hr⟩
    cases g with
    | procedure call row point =>
      have hcall : call.recovering = true := by
        simp only [Frame.role, Role.recovers, Bool.and_eq_true] at hr
        exact hr.1
      cases point with
      | stoppingRecovery w => cases hcall.symm.trans (show call.recovering = false from ha)
      | stoppingPolling w => exact Nat.one_lt_two
      | _ => exact Nat.two_pos
    | recovery => exact Nat.two_pos
    | queued => exact Nat.two_pos
    | _ => cases hr
  have hpoll : (∃ e, g.role = .polling e ∨ g.role = .pollingFailed e) → g.depth < 1 := by
    rintro ⟨e, hr⟩
    cases g with
    | polling | pollingFailed => exact Nat.one_pos
    | _ => rcases hr with hr | hr <;> cases hr
  have hsched : g.scheduled = true → g.depth < 3 := by
    intro hg
    cases g with
    | procedure call row point => cases point <;> simp [Frame.depth]
    | queued | scan | event | registerHeartbeat => exact Nat.succ_pos 2
    | _ => cases hg
  have hdisc : g.role = .discovery → g.depth < 1 := by
    intro hg
    cases g with
    | discovery => exact Nat.one_pos
    | _ => cases hg
  cases f with
  | procedure call row point =>
    cases point with
    | stoppingRecovery => exact hrec hs
    | stoppingPolling => exact hpoll hs
    | _ => cases hv
  | deletion e point =>
    cases point with
    | stoppingRecovery => exact hrec hs
    | stoppingPolling => exact hpoll hs
    | _ => cases hv
  | closing point =>
    cases point with
    | stoppingDiscovery => exact hdisc hs
    | stoppingOperations | stoppingRemaining => exact hsched hs
    | stoppingRecoveries => exact hrec hs
    | stoppingPolling => exact hpoll hs
    | disconnecting => cases hv
  | _ => cases hv

theorem WaitsFor.depth_lt (h : s.Founded) (hw : s.WaitsFor t u) :
    ∃ k k', s.tasks.get? t = some k ∧ s.tasks.get? u = some k' ∧ taskDepth k' < taskDepth k := by
  obtain ⟨k, k', hk, hk', hw⟩ := hw
  refine ⟨k, k', hk, hk', ?_⟩
  rcases hw with hw | ⟨hlive, hq, hl⟩
  · obtain ⟨-, -, hstop⟩ := h.halted t k (by simp) hk u hw
    obtain ⟨hs, hg⟩ := hstop k' hk'
    have hnq : k.frame.queues = false := by
      refine Bool.eq_false_iff.mpr (fun hq => ?_)
      rw [(Frame.queues_awaited hq).1] at hw
      cases hw
    rw [taskDepth_stopped hs, show taskDepth k = k.frame.depth by simp [taskDepth, hnq]]
    exact depth_stops hw hg (h.asked hk')
  · obtain ⟨k₁, hk₁, hx⟩ := h.holder u (by simp) hl
    obtain rfl := Option.some.inj (hk'.symm.trans hk₁)
    have hnc : k'.frame.role ≠ .closing := by
      intro hr
      cases hf : k'.frame with
      | closing =>
        rw [hf] at hx
        cases hx
      | _ =>
        rw [hf] at hr
        cases hr
    have hd := Frame.depth_of_awaited (Frame.awaited_of_holdsLock hx) hnc
    simp [taskDepth, Frame.queues_of_holdsLock hx, hq, hlive, hd]

theorem waits_acyclic (h : s.Founded) : ¬ TransGen s.WaitsFor t t := by
  intro hw
  have hlt : ∀ u, TransGen s.WaitsFor t u →
      ∃ k k', s.tasks.get? t = some k ∧ s.tasks.get? u = some k' ∧ taskDepth k' < taskDepth k := by
    intro u hu
    induction hu with
    | single hw => exact hw.depth_lt h
    | tail _ hw ih =>
      obtain ⟨k, k', hk, hk', hlt⟩ := ih
      obtain ⟨k₁, k₂, hk₁, hk₂, hlt'⟩ := hw.depth_lt h
      obtain rfl := Option.some.inj (hk'.symm.trans hk₁)
      exact ⟨k, k₂, hk, hk₂, hlt'.trans hlt⟩
  obtain ⟨k, k', hk, hk', hlt⟩ := hlt t hw
  obtain rfl := Option.some.inj (hk.symm.trans hk')
  exact lt_irrefl _ hlt

theorem ended_or (s : Service) (ts : List TaskId) : s.ended ts = true ∨ ∃ u ∈ ts, ∃ k', s.tasks.get? u = some k' := by
  by_cases he : s.ended ts = true
  · exact .inl he
  · right
    simp only [ended, List.all_eq_true, not_forall, exists_prop] at he
    obtain ⟨u, hu, hk'⟩ := he
    exact ⟨u, hu, Option.ne_none_iff_exists'.mp (fun hnone => hk' (by rw [hnone]; rfl))⟩

theorem runnable_of_ended (hk : s.tasks.get? t = some k)
    (hr : s.ended k.frame.awaited = true → s.Runnable t) : s.Runnable t ∨ ∃ u, s.WaitsFor t u := by
  rcases ended_or s k.frame.awaited with he | ⟨u, hu, k', hk'⟩
  · exact .inl (hr he)
  · exact .inr ⟨u, k, k', hk, hk', .inl hu⟩

theorem runnable_of_lock (h : s.Founded) (hk : s.tasks.get? t = some k) (hc : k.cancelled = false)
    (hq : k.frame.queues = true) (hr : s.ioLock.isNone = true → s.Runnable t) :
    s.Runnable t ∨ ∃ u, s.WaitsFor t u := by
  cases hl : s.ioLock with
  | none => exact .inl (hr (by simp [hl]))
  | some u =>
    obtain ⟨k', hk', -⟩ := h.holder u (by simp) hl
    exact .inr ⟨u, k, k', hk, hk', .inr ⟨hc, hq, hl⟩⟩

theorem runnable_of_advance (hk : s.tasks.get? t = some k) (hc : k.cancelled = false) (outcome : Outcome)
    (ha : (s.advance t k.frame outcome 0 0).isSome = true) : s.Runnable t :=
  ⟨outcome, 0, 0, by simpa [resume, hk, hc] using ha⟩

theorem isSome_ite {c : Prop} [Decidable c] (hc : c) (s : Service) : (if c then some s else none).isSome = true := by
  simp [hc]

theorem runnable_or_waits (h : s.Founded) (hk : s.tasks.get? t = some k) : s.Runnable t ∨ ∃ u, s.WaitsFor t u := by
  cases hc : k.cancelled with
  | true =>
    have hcan := h.obeys t k hk hc
    have hrun : (s.interrupted t k.frame 0).isSome = true → s.Runnable t :=
      fun ha => ⟨.resumed, 0, 0, by simpa [resume, hk, hc] using ha⟩
    cases hf : k.frame with
    | procedure call row point =>
      rw [hf] at hrun
      have hended := runnable_of_ended hk
      rw [hf] at hended
      exact hended (fun he => hrun (isSome_ite he _))
    | pollingFailed | deletion | closing =>
      rw [hf] at hcan
      cases hcan
    | _ =>
      rw [hf] at hrun
      exact .inl (hrun rfl)
  | false =>
    have hrun := runnable_of_advance hk hc
    have hlock := runnable_of_lock h hk hc
    have hended := runnable_of_ended hk
    cases hf : k.frame with
    | queued | recovery | pollingFailed | event | registerHeartbeat =>
      rw [hf] at hrun
      exact .inl (hrun .resumed rfl)
    | procedure call row point =>
      rw [hf] at hrun hlock hended
      cases point with
      | stoppingRecovery u | stoppingPolling u =>
        exact hended (fun he => hrun .resumed (isSome_ite he _))
      | lockDisconnect | lockConnect =>
        exact hlock rfl (fun hl => hrun .resumed (isSome_ite hl _))
      | disconnecting => exact .inl (hrun .resumed rfl)
      | _ => exact .inl (hrun (.raised Adapter.notConnected) rfl)
    | polling e point =>
      rw [hf] at hrun hlock
      cases point with
      | starting | sleeping => exact .inl (hrun .resumed rfl)
      | reading => exact .inl (hrun .crashed rfl)
      | lock poll =>
        exact hlock rfl (fun hl => hrun .resumed (isSome_ite hl _))
    | scan point =>
      rw [hf] at hrun hlock
      cases point with
      | starting => exact .inl (hrun .resumed rfl)
      | discovering => exact .inl (hrun (.raised Adapter.notConnected) rfl)
      | lock operation =>
        exact hlock rfl (fun hl => hrun .resumed (isSome_ite hl _))
    | discovery point =>
      rw [hf] at hrun hlock
      cases point with
      | starting | sleeping => exact .inl (hrun .resumed rfl)
      | discovering => exact .inl (hrun (.raised Adapter.notConnected) rfl)
      | lock =>
        exact hlock rfl (fun hl => hrun .resumed (isSome_ite hl _))
    | deletion e point =>
      rw [hf] at hrun hlock hended
      cases point with
      | stoppingRecovery u | stoppingPolling u =>
        exact hended (fun he => hrun .resumed (isSome_ite he _))
      | lock =>
        exact hlock rfl (fun hl => hrun .resumed (isSome_ite hl _))
      | disconnecting => exact .inl (hrun .resumed rfl)
    | closing point =>
      rw [hf] at hrun hended
      refine hended (fun he => hrun .resumed ?_)
      cases point with
      | disconnecting => rfl
      | _ => exact isSome_ite he _

theorem reaches_runnable (h : s.Founded) (hk : s.tasks.get? t = some k) :
    ∃ u, ReflTransGen s.WaitsFor t u ∧ s.Runnable u := by
  induction hd : taskDepth k using Nat.strong_induction_on generalizing t k with
  | _ d ih =>
    rcases runnable_or_waits h hk with hr | ⟨u, hw⟩
    · exact ⟨t, .refl, hr⟩
    · obtain ⟨k₁, k', hk₁, hk', hlt⟩ := hw.depth_lt h
      obtain rfl := Option.some.inj (hk.symm.trans hk₁)
      obtain ⟨v, hv, hr⟩ := ih _ (hd ▸ hlt) hk' rfl
      exact ⟨v, .head hw hv, hr⟩

theorem founded_reaches (h : Reachable Started step s) : s.Coherent ∧ s.Founded := by
  refine Reaches.invariant (I := fun s => s.Coherent ∧ s.Founded) ?_ ?_ h
  · rintro s ⟨boot, now, hb, rfl⟩
    refine ⟨coherent_requests (G := {}) (hb.coherent now) (request_start hb.tasks now), ?_⟩
    obtain ⟨settings, store, T, id, nextOperation, -, -, rfl⟩ := hb
    exact founded_start rfl rfl rfl now
  · rintro s a s' ⟨hc, ho⟩ - hs
    exact ⟨coherent_evolves hc (evolves_step (G := {}) hc {} hs), founded_step hc ho hs⟩

theorem no_deadlock (h : Reachable Started step s) (hk : s.tasks.get? t = some k) :
    ¬ TransGen s.WaitsFor t t ∧ ∃ u, ReflTransGen s.WaitsFor t u ∧ s.Runnable u :=
  ⟨waits_acyclic (founded_reaches h).2, reaches_runnable (founded_reaches h).2 hk⟩

theorem no_deadlock_closing : ¬ TransGen firstSession.close.WaitsFor 1 1 ∧
    ∃ u, ReflTransGen firstSession.close.WaitsFor 1 u ∧ firstSession.close.Runnable u :=
  no_deadlock (.step (a := .close) (.init firstSession_started) trivial rfl)
    (k := ⟨.closing (.stoppingDiscovery 0), false⟩) rfl

end Waits

end PitbluCore.Service
