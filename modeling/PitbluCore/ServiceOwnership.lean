import PitbluCore.ServiceRules

namespace PitbluCore

open Library

namespace Control

def Engaged (c : Control) (device : DeviceId) : Prop :=
  ∃ u task, c.tasks.get? u = some task ∧ task.engages device = true

def NoneFailed (c : Control) (device : DeviceId) : Prop :=
  ∀ u task, c.tasks.get? u = some task → task.frame.role ≠ .pollingFailed device

def Released (c : Control) (device : DeviceId) : Prop :=
  ∀ owner, c.owner = some owner → c.Idle owner ∧ (owner ≠ device → c.NoneFailed owner)

instance (c : Control) (d : DeviceId) : Decidable (c.Idle d) :=
  decidable_of_iff (∀ task ∈ c.tasks.values, task.engages d = false) Dict.forall_values_iff

instance (c : Control) (d : DeviceId) : Decidable (c.NoneFailed d) :=
  decidable_of_iff (∀ task ∈ c.tasks.values, task.frame.role ≠ .pollingFailed d) Dict.forall_values_iff

instance (c : Control) (d : DeviceId) : Decidable (c.Released d) :=
  decidable_of_iff (∀ owner ∈ c.owner, c.Idle owner ∧ (owner ≠ d → c.NoneFailed owner)) Iff.rfl

end Control

namespace Task

variable {task : Task} {d : DeviceId}

theorem engages_of_executes (h : task.frame.role.executes d = true) : task.engages d = true := by simp [engages, h]

theorem engages_cancel (h : task.cancel.engages d = true) : task.engages d = true := by
  unfold engages at *
  rw [cancel_frame] at h
  unfold cancel at h
  split at h
  · exact h
  · simp only [Bool.not_true, Bool.and_false, Bool.or_false] at h
    simp [h]

structure Entitled (owner : Option DeviceId) (desire : DeviceId → Option (DesiredState × Bool)) (task : Task) :
    Prop where
  engaged : ∀ d, task.engages d = true → owner = some d
  failed : ∀ d, task.frame.role = .pollingFailed d → owner = some d ∨ ∀ auto, desire d ≠ some (.connected, auto)

variable {owner : Option DeviceId} {desire : DeviceId → Option (DesiredState × Bool)}

theorem Entitled.cancel (h : task.Entitled owner desire) : task.cancel.Entitled owner desire :=
  ⟨fun d hd => h.engaged d (engages_cancel hd), fun d hd => h.failed d (by rwa [cancel_frame] at hd)⟩

theorem Entitled.mono {owner' : Option DeviceId} {desire' : DeviceId → Option (DesiredState × Bool)}
    (h : task.Entitled owner desire) (ho : ∀ d, owner = some d → owner' = some d)
    (hd : ∀ d auto, desire' d = some (.connected, auto) → owner' = some d ∨
    ∃ auto, desire d = some (.connected, auto)) :
    task.Entitled owner' desire' := by
  refine ⟨fun d he => ho d (h.engaged d he), fun d hf => ?_⟩
  rcases h.failed d hf with hown | hn
  · exact .inl (ho d hown)
  · by_cases hown : owner' = some d
    · exact .inl hown
    · refine .inr (fun auto hdes => ?_)
      obtain ⟨auto', hdes'⟩ := (hd d auto hdes).resolve_left hown
      exact hn auto' hdes'

theorem Entitled.handover {n : OperationId}
    (h : task.Entitled owner desire) (hv : task.frame.Valid) (hc : task.cancelled = false) {f : Frame}
    (hr : Role.Handover n task.frame.role f.role) : Task.Entitled owner desire { task with frame := f } := by
  obtain ⟨frame, cancelled⟩ := task
  cases hc
  generalize hrole : frame.role = r at hr
  generalize hrole' : f.role = r' at hr
  have he := h.engaged
  have hf := h.failed
  cases hr with
  | same =>
    refine ⟨fun d hd => he d ?_, fun d hd => hf d ?_⟩
    · simpa [engages, hrole, hrole'] using hd
    · simpa [hrole, hrole'] using hd
  | attempt d hn =>
    refine ⟨fun d' hd => he d' ?_, fun d' hd => ?_⟩
    · simpa [engages, hrole, hrole', Role.executes, Role.recovers, Role.polls] using hd
    · cases hrole'.symm.trans hd
  | @retry call hrec =>
    refine ⟨fun d' hd => he d' ?_, fun d' hd => ?_⟩
    · simp only [engages, hrole, hrole', Role.executes, Role.recovers, Role.polls, Bool.or_false, Bool.false_or,
        Bool.not_false, Bool.and_true] at hd ⊢
      simp [hrec, hd]
    · cases hrole'.symm.trans hd
  | crash d =>
    refine ⟨fun d' hd => ?_, fun d' hd => .inl (he d' ?_)⟩
    · simp [engages, hrole', Role.executes, Role.recovers, Role.polls] at hd
    · have hd' : d = d' := by simpa [hrole'] using hd
      simp [engages, hrole, Role.polls, hd']

end Task

namespace Service

variable {s s' : Service} {t : TaskId} {task : Task} {n : OperationId}

def Uses (s : Service) (device : DeviceId) : Prop := s.connectedDevice = some device ∨ s.control.Engaged device

/-- A step that gives the adapter up takes it from nobody who uses it. -/
structure Yields (s : Service) (a : Action) : Prop where
  release : ∀ d, s.releases a = some d → s.control.Released d
  remove : ∀ d, s.removes a = some d → s.owner = some d → s.control.Idle d

instance (s : Service) (a : Action) : Decidable (s.Yields a) :=
  decidable_of_iff ((∀ d ∈ s.releases a, s.control.Released d) ∧
    ∀ d ∈ s.removes a, s.owner = some d → s.control.Idle d) ⟨fun h => ⟨h.1, h.2⟩, fun h => ⟨h.release, h.remove⟩⟩

def ownershipGuards : Guards where
  release d c := c.Released d
  remove d c := c.owner = some d → c.Idle d

structure Yielding (G : Guards) : Prop where
  release : ∀ d c, G.release d c → c.Released d
  remove : ∀ d c, G.remove d c → c.owner = some d → c.Idle d

theorem Yields.promised {a : Action} (h : s.Yields a) : ownershipGuards.Promised s a where
  release := h.release
  remove := h.remove

structure Owned (s : Service) : Prop where
  connected : ∀ d, s.connectedDevice = some d → s.owner = some d
  tasks : s.Each (Task.Entitled s.owner s.control.desire)

theorem entitled_idle {owner : Option DeviceId} {desire : DeviceId → Option (DesiredState × Bool)} {f : Frame}
    (hr : ∀ d, f.role ≠ .pollingFailed d) (hs : ∀ d, f.role.serves d = false) :
    (Task.mk f false).Entitled owner desire := by
  refine ⟨fun d hd => ?_, fun d hd => absurd hd (hr d)⟩
  have hs' := hs d
  simp only [Role.serves, Bool.or_eq_false_iff] at hs'
  simp [Task.engages, hs'.1.1, hs'.1.2, hs'.2] at hd

theorem entitled_recovery {d : DeviceId} {point : RecoveryPoint} {desire : DeviceId → Option (DesiredState × Bool)} :
    (Task.mk (.recovery d point) false).Entitled (some d) desire := by
  refine ⟨fun d' hd => ?_, fun d' hd => by cases hd⟩
  simpa [Task.engages, Frame.role, Role.executes, Role.recovers, Role.polls] using hd

theorem entitled_polling {d : DeviceId} {point : PollPoint} {desire : DeviceId → Option (DesiredState × Bool)} :
    (Task.mk (.polling d point) false).Entitled (some d) desire := by
  refine ⟨fun d' hd => ?_, fun d' hd => by cases hd⟩
  simpa [Task.engages, Frame.role, Role.executes, Role.recovers, Role.polls] using hd

theorem Owned.spawned (h : s.Owned) (hk : s.tasks.get? t = some task) {f : Frame} (hf : Spawns G s task f) :
    (Task.mk f false).Entitled s.owner s.control.desire := by
  have ht := h.tasks t task hk
  cases hf with
  | event row => exact entitled_idle (fun _ hr => by cases hr) (fun _ => rfl)
  | @recovery d immediate hr hc hw =>
    have ho : s.owner = some d := by
      rcases hr with hr | hr | hr
      · exact ht.engaged d (Task.engages_of_executes hr)
      · exact ht.engaged d (by simp [Task.engages, hr, hc])
      · exact (ht.failed d hr).resolve_right (fun hn => hn true hw.2)
    rw [ho]
    exact entitled_recovery
  | polling hx hd =>
    rw [ht.engaged _ (Task.engages_of_executes hx)]
    exact entitled_polling

theorem Owned.steady (h : s.Owned) (hs : Steady s s') (ht : s'.Each (Task.Entitled s.owner s.control.desire)) :
    s'.Owned := by
  refine ⟨?_, ?_⟩
  · rw [hs.connectedDevice, hs.owner]
    exact h.connected
  · rw [hs.owner, hs.desire]
    exact ht

theorem Owned.yield (h : s.Owned) {m : Service} (ht : m.tasks = s.tasks) (hd : m.connectedDevice = none)
    (hi : ∀ owner, s.owner = some owner → s.control.Idle owner)
    (hf : ∀ u task d, s.tasks.get? u = some task → task.frame.role = .pollingFailed d →
      ∀ auto, m.control.desire d ≠ some (.connected, auto)) : m.Owned := by
  refine ⟨fun d hm => ?_, fun u task hk => ?_⟩
  · cases hd.symm.trans hm
  · rw [ht] at hk
    refine ⟨fun d he => ?_, fun d hr => .inr (hf u task d hk hr)⟩
    cases (hi d ((h.tasks u task hk).engaged d he) u task hk).symm.trans he

theorem Owned.removeDevice (h : s.Owned) {d : DeviceId} (hd : s.connectedDevice ≠ some d)
    (hg : s.owner = some d → s.control.Idle d) (now : Time) : (s.removeDevice d now).Owned := by
  by_cases ho : s.owner = some d
  · have hnone : s.connectedDevice = none := by
      cases hc : s.connectedDevice with
      | none => rfl
      | some d' =>
        have hd' := (h.connected d' hc).symm.trans ho
        exact absurd (hc.trans hd') hd
    refine h.yield rfl hnone (fun owner hown => ?_) (fun u k d' hk hr auto hdes => ?_)
    · obtain rfl : owner = d := Option.some.inj (hown.symm.trans ho)
      exact hg hown
    · rw [desire_removeDevice] at hdes
      obtain ⟨hne, hdes⟩ := Option.ite_none_left_eq_some.mp hdes
      rcases (h.tasks u k hk).failed d' hr with hown | hn
      · exact hne (Option.some.inj (hown.symm.trans ho))
      · exact hn auto hdes
  · have hown : (s.removeDevice d now).owner = s.owner := if_neg ho
    refine ⟨fun d' hc => ?_, fun u k hk => ?_⟩
    · rw [hown]
      exact h.connected d' hc
    · rw [hown]
      have hk' := h.tasks u k hk
      refine ⟨hk'.engaged, fun d' hr => (hk'.failed d' hr).imp_right (fun hn auto hdes => ?_)⟩
      rw [desire_removeDevice] at hdes
      exact hn auto (Option.ite_none_left_eq_some.mp hdes).2

theorem Owned.move {G : Guards} (hG : Yielding G) (h : s.Owned) (hk : s.tasks.get? t = some task)
    (hm : Move G t task n s s') : s'.Owned := by
  have ht : s'.Each (Task.Entitled s.owner s.control.desire) :=
    h.tasks.move hm (fun _ hc => hc.cancel) (fun f hf => h.spawned hk hf)
  cases hm with
  | quiet hq => exact h.steady (steady_of_control hq.control) ht
  | select _ _ => exact h.steady (steady_of_control (control_select _ _)) ht
  | connected hx =>
    refine ⟨fun d hd => ?_, ht⟩
    cases hd
    exact (h.tasks t task hk).engaged _ (Task.engages_of_executes hx)
  | @commit call observed hr ha _ _ =>
    refine ⟨h.connected, ht.imp (fun k hk' => ⟨hk'.engaged, fun d hf => ?_⟩)⟩
    rw [desire_setDesired]
    split
    · rename_i hd
      subst hd
      exact .inl ((h.tasks t task hk).engaged _ (Task.engages_of_executes (executes_of_role hr ha)))
    · exact hk'.failed d hf
  | @disconnected call hr ha =>
    refine ⟨h.connected, ht.imp (fun k hk' => ⟨hk'.engaged, fun d hf => ?_⟩)⟩
    rw [desire_setDesired]
    split
    · refine .inr (fun auto hd => ?_)
      obtain ⟨p, -, hp⟩ := Option.map_eq_some_iff.mp hd
      cases hp
    · exact hk'.failed d hf
  | @releaseAdapter call id hr ha _ hl hg =>
    replace hg := hG.release _ _ hg
    refine h.yield rfl rfl (fun owner ho => (hg owner ho).1) ?_
    intro u k d hk' hrole auto hd
    rw [desire_setDesired] at hd
    split at hd
    · obtain ⟨p, -, hp⟩ := Option.map_eq_some_iff.mp hd
      cases hp
    · rename_i hne
      rcases (h.tasks u k hk').failed d hrole with ho | hn
      · exact (hg d ho).2 hne u k hk' hrole
      · exact hn auto hd
  | remove now _ hd hg => exact h.removeDevice hd (hG.remove _ _ hg) now
  | removeConnected now _ _ _ hg _ =>
    have hnone : (s.release.setConnected none).Owned := ⟨fun d hd => (by cases hd), h.tasks⟩
    exact hnone.removeDevice (by simp [setConnected]) (hG.remove _ _ hg) now
  | mark _ status error now _ => exact h.steady (steady_markOperation _ status error now) ht
  | event id => exact h.steady (steady_scheduleEvent id) ht
  | scheduleRecovery d immediate _ _ => exact h.steady (steady_scheduleRecovery d immediate) ht
  | startPolling _ _ => exact h.steady (steady_startPolling _) ht
  | _ => exact ⟨h.connected, ht⟩

theorem Owned.park {G : Guards} (h : s.Owned) (hc : s.control.Coherent (some t) n) (hk : s.tasks.get? t = some task)
    (hp : Park G t task n s s') : s'.Owned := by
  have ht : s'.Each (Task.Entitled s.owner s.control.desire) := by
    refine h.tasks.park hk hp (fun f hf hlive => ?_)
    exact (h.tasks t task hk).handover (hc.tasks t task hk).valid hlive hf.role
  cases hp <;> exact ⟨h.connected, ht⟩

theorem owner_accept {d d' : DeviceId} {action : ConnectionAction}
    (ho : action = .disconnect ∨ s.owner = none ∨ s.owner = some d) (now : Time) (hd' : s.owner = some d') :
    (s.accept d action now).owner = some d' := by
  change (if action = .disconnect then s.owner else some d) = some d'
  split
  · exact hd'
  · rename_i ha
    rw [hd'] at ho
    simpa [ha, eq_comm] using ho

theorem Owned.accept (h : s.Owned) {d : DeviceId} {action : ConnectionAction} (now : Time)
    (ho : action = .disconnect ∨ s.owner = none ∨ s.owner = some d) : (s.accept d action now).Owned := by
  have hown : ∀ d', s.owner = some d' → (s.accept d action now).owner = some d' := fun _ => owner_accept ho now
  have hold : s.Each (Task.Entitled (s.accept d action now).owner (s.accept d action now).control.desire) := by
    refine h.tasks.imp (fun k hk => hk.mono hown (fun d' auto hdes => ?_))
    rw [desire_accept] at hdes
    split at hdes
    · rename_i hd
      obtain ⟨p, -, hp⟩ := Option.map_eq_some_iff.mp hdes
      have ha : action ≠ .disconnect := by
        rintro rfl
        cases hp
      exact .inl ((if_neg ha).trans (congrArg some hd.symm))
    · exact .inr ⟨auto, hdes⟩
  refine ⟨fun d' hc => hown d' (h.connected d' hc), hold.of_set rfl ⟨fun d' he => ?_, fun d' hf => by cases hf⟩⟩
  have hx : action ≠ .disconnect ∧ d = d' := by
    simpa [Task.engages, Frame.role, Role.executes, Role.recovers, Role.polls] using he
  exact (if_neg hx.1).trans (congrArg some hx.2)

theorem Owned.adopt (h : s.Owned) (d : DeviceId) (ho : s.owner = none) :
    ({ s with owner := some d }.scheduleRecovery d true).Owned := by
  have hown : ({ s with owner := some d } : Service).Owned := by
    refine ⟨fun d' hd' => ?_,
      h.tasks.imp (fun k hk => hk.mono (fun d' hd' => ?_) (fun d' auto hdes => .inr ⟨auto, hdes⟩))⟩
    · cases ho.symm.trans (h.connected d' hd')
    · cases ho.symm.trans hd'
  exact hown.steady (steady_scheduleRecovery d true) (hown.tasks.scheduleRecovery (fun _ => entitled_recovery))

theorem Owned.request {G : Guards} (hG : Yielding G) (h : s.Owned) (hr : Request G s s') : s'.Owned := by
  cases hr with
  | quiet hq => exact h.steady (steady_of_control hq.control) (h.tasks.of_tasks (congrArg Control.tasks hq.control))
  | register row hn hd _ =>
    have hrow : s.Each (Task.Entitled s.owner
        ({ s with store := s.store.saveDevice row
                  trace := .registered row.deviceId :: s.trace } : Service).control.desire) := by
      refine h.tasks.imp (fun k hk => hk.mono (fun _ ho => ho) (fun d' auto hdes => ?_))
      rw [desire_register] at hdes
      split at hdes
      · rw [hd] at hdes
        cases hdes
      · exact .inr ⟨auto, hdes⟩
    exact ⟨h.connected, hrow.of_set rfl (entitled_idle (fun _ hr => by cases hr) (fun _ => rfl))⟩
  | patch d patch candidate _ =>
    refine ⟨h.connected, h.tasks.imp (fun k hk => hk.mono (fun _ ho => ho) (fun d' auto hdes => ?_))⟩
    rw [desire_patch] at hdes
    split at hdes
    · rename_i hd
      subst hd
      obtain ⟨⟨desired, auto'⟩, hp, he⟩ := Option.map_eq_some_iff.mp hdes
      cases he
      exact .inr ⟨auto', hp⟩
    · exact .inr ⟨auto, hdes⟩
  | accept action now _ _ ho => exact h.accept now ho
  | adopt ho => exact h.adopt _ ho
  | delete now _ _ hd hg => exact h.removeDevice hd (hG.remove _ _ hg) now
  | startScan now => exact ⟨h.connected, h.tasks.of_set rfl (entitled_idle (fun _ hr => by cases hr) (fun _ => rfl))⟩
  | deleteRecovering _ _ =>
    refine ⟨h.connected, (h.tasks.stopRecovery (fun _ hk => hk.cancel) _ _).spawn ?_⟩
    exact entitled_idle (fun _ hr => by cases hr) (fun _ => rfl)
  | deletePolling _ _ =>
    refine ⟨h.connected, (h.tasks.stopPolling (fun _ hk => hk.cancel) _ _).spawn ?_⟩
    exact entitled_idle (fun _ hr => by cases hr) (fun _ => rfl)
  | deleteConnected _ => exact ⟨h.connected, h.tasks.spawn (entitled_idle (fun _ hr => by cases hr) (fun _ => rfl))⟩
  | close =>
    refine ⟨h.connected, (h.tasks.cancel (fun _ hk => hk.cancel) _).of_set rfl ?_⟩
    exact entitled_idle (fun _ hr => by cases hr) (fun _ => rfl)
  | unlink | join _ _ => exact ⟨h.connected, h.tasks⟩

theorem owned_startDiscovery {boot : Service} (hd : boot.connectedDevice = none) (ht : boot.tasks = Dict.empty)
    (now : Time) : (boot.startDiscovery now).Owned := by
  refine ⟨fun d hc => ?_, Each.of_set (s := boot) (f := .discovery .starting) (fun u task hk => ?_) rfl ?_⟩
  · cases hd.symm.trans hc
  · rw [ht] at hk
    cases hk
  · exact entitled_idle (fun _ hr => by cases hr) (fun _ => rfl)

theorem preserved_owned {G : Guards} (hG : Yielding G) : Preserved G Owned where
  move _ hk h hm := h.move hG hk hm
  park hc hk h hp := h.park hc hk hp
  request _ h hr := h.request hG hr
  restart now _ _ := owned_startDiscovery rfl rfl now

theorem owned_of_reaches (h : Reaches Started step Yields s) : s.Owned := by
  refine ((preserved_owned (G := ownershipGuards) ⟨fun _ _ h => h, fun _ _ h => h⟩).reaches (fun _ hs => hs) ?_
    (fun _ _ hy => hy.promised) h).2
  rintro boot now ⟨settings, store, T, id, nextOperation, -, -, rfl⟩ -
  exact owned_startDiscovery rfl rfl now

theorem exclusive_ownership (h : Reaches Started step Yields s) :
    (∀ d, s.Uses d → s.owner = some d) ∧ ∀ d d', s.Uses d → s.Uses d' → d = d' := by
  have hown : ∀ d, s.Uses d → s.owner = some d := by
    rintro d (hd | ⟨u, task, hk, he⟩)
    · exact (owned_of_reaches h).connected d hd
    · exact ((owned_of_reaches h).tasks u task hk).engaged d he
  exact ⟨hown, fun d d' hd hd' => Option.some.inj ((hown d hd).symm.trans (hown d' hd'))⟩

def handover : List Action :=
  registerBoth ++
  [.startConnectionOperation "igrill-v202-a" .connect 0, go 3, go 3, .resume 3 .linked 0 0,
   .resume 3 (.read (TelemetryState.sampleSnapshot 0 1 Nat.one_pos)) 0 0,
   .startConnectionOperation "igrill-v202-a" .disconnect 0, go 6, go 4, go 6, go 6, go 6,
   .deleteDevice "igrill-v202-a" 0,
   .startConnectionOperation "igrill-v202-b" .connect 0, go 8, go 8, .resume 8 .linked 0 0,
   .resume 8 (.read (TelemetryState.sampleSnapshot 0 1 Nat.one_pos)) 0 0]

theorem exclusive_ownership_handover :
    ∃ s, replay step firstSession handover = some s ∧ s.connectedDevice = some "igrill-v202-b" ∧
      s.owner = some "igrill-v202-b" := by
  have hrun : (replayIf (fun s a => decide (s.Yields a)) step firstSession handover).map connectedDevice =
      some (some "igrill-v202-b") := by decide +kernel
  obtain ⟨s, hs, hd⟩ := Option.map_eq_some_iff.mp hrun
  have hr : Reaches Started step Yields s :=
    .of_replayIf (fun _ _ => of_decide_eq_true) (.init firstSession_started) hs
  exact ⟨s, replay_of_replayIf hs, hd, (exclusive_ownership hr).1 _ (.inl hd)⟩

/-- A disconnect of one device waits for the lock; by the time it gives the adapter up, it is another's. -/
def overtaken : List Action :=
  registerBoth ++
  [go 0, go 0, .startConnectionOperation "igrill-v202-b" .disconnect 0, go 3,
   .startConnectionOperation "igrill-v202-a" .connect 0, .resume 0 bothFound 0 0, go 3, go 4, go 3]

theorem not_exclusive_ownership :
    ¬ ∀ s, Reachable Started step s → (∀ d, s.Uses d → s.owner = some d) ∧ ∀ d d', s.Uses d → s.Uses d' → d = d' := by
  intro hall
  have hrun : (replay step firstSession overtaken).map
      (fun s => (s.owner, (s.tasks.get? 4).map (Task.engages "igrill-v202-a"))) =
      some (none, some true) := by decide +kernel
  obtain ⟨s, hs, he⟩ := Option.map_eq_some_iff.mp hrun
  obtain ⟨ho, ht⟩ := Prod.mk.inj he
  obtain ⟨task, hk, hx⟩ := Option.map_eq_some_iff.mp ht
  have hr : Reachable Started step s := .of_replay (.init firstSession_started) hs
  have hown := (hall s hr).1 "igrill-v202-a" (.inr ⟨4, task, hk, hx⟩)
  cases ho.symm.trans hown

end Service

end PitbluCore
