import PitbluCore.ServiceRules

namespace PitbluCore

open Library Relation

def Role.attends (device : DeviceId) (role : Role) : Bool := role.touches device || role = .pollingFailed device

structure Control.Abandoned (c : Control) (device : DeviceId) : Prop where
  tasks : ∀ u task, c.tasks.get? u = some task → task.frame.role.attends device = false
  client : ∀ link, c.client = some link → link.device ≠ device

instance (c : Control) (d : DeviceId) : Decidable (c.Abandoned d) :=
  decidable_of_iff ((∀ task ∈ c.tasks.values, task.frame.role.attends d = false) ∧
      ∀ link ∈ c.client, link.device ≠ d) (by
    rw [Dict.forall_values_iff]
    exact ⟨fun h => ⟨h.1, h.2⟩, fun h => ⟨h.tasks, h.client⟩⟩)

namespace Role

variable {r r' : Role} {d : DeviceId}

theorem Handover.of_deletion {n : OperationId} (h : Handover n r (.deletion d)) : r = .deletion d := by
  cases h
  rfl

theorem attends_of_touches (h : r.touches d = true) : r.attends d = true := by simp [attends, h]

theorem attends_of_executes (h : r.executes d = true) : r.attends d = true := by simp [attends, touches, serves, h]

theorem attends_of_polls (h : r.polls d = true) : r.attends d = true := by simp [attends, touches, serves, h]

theorem Handover.attends {n : OperationId} (h : Handover n r r') (hd : r'.attends d = true) : r.attends d = true := by
  cases h with
  | same => exact hd
  | attempt d' hn => simpa [Role.attends, touches, serves, executes, Role.recovers, polls] using hd
  | @retry call hr =>
    have hdev : call.device = d := by
      simpa [Role.attends, touches, serves, executes, Role.recovers, polls] using hd
    simp [Role.attends, touches, serves, Role.recovers, hr, hdev]
  | crash d' => simpa [Role.attends, touches, serves, executes, Role.recovers, polls] using hd

end Role

namespace Service

variable {s s' : Service} {t : TaskId} {task : Task} {n : OperationId} {d : DeviceId}

/-- What is left of a device once it is deleted. -/
structure Erased (s : Service) (d : DeviceId) : Prop where
  connectedDevice : s.connectedDevice ≠ some d
  client : ∀ link, s.adapter.client = some link → link.device ≠ d
  telemetry : s.telemetry.Clean d

def Attends (desire : DeviceId → Option (DesiredState × Bool)) (task : Task) : Prop :=
  ∀ d, task.frame.role.attends d = true → desire d ≠ none

structure Swept (s : Service) : Prop where
  erased : ∀ d, s.control.desire d = none → s.Erased d
  tasks : s.Each (Attends s.control.desire)
  keyed : s.telemetry.Keyed
  recorded : ∀ d link registered, .recorded d link registered ∈ s.trace → registered = true

def deletionGuards : Guards where
  remove d c := c.Abandoned d

theorem desire_eq_none : s.control.desire d = none ↔ s.store.device d = none := by simp [control]

theorem Attends.cancel {desire : DeviceId → Option (DesiredState × Bool)} (h : Attends desire task) :
    Attends desire task.cancel := by
  unfold Attends at *
  rwa [Task.cancel_frame]

section Moves

theorem telemetry_markOperation (id : OperationId) (status : OperationStatus) (error : Option ErrorCode) (now : Time) :
    (s.markOperation id status error now).telemetry = s.telemetry := by
  unfold markOperation
  split <;> rfl

theorem telemetry_scheduleEvent (id : OperationId) : (s.scheduleEvent id).telemetry = s.telemetry := by
  rcases scheduleEvent_eq (s := s) id with he | ⟨row, he⟩ <;> rw [he]
  rfl

theorem telemetry_scheduleRecovery (d : DeviceId) (immediate : Bool) :
    (s.scheduleRecovery d immediate).telemetry = s.telemetry := by
  unfold scheduleRecovery
  split <;> rfl

theorem telemetry_startPolling (d : DeviceId) : (s.startPolling d).telemetry = s.telemetry := by
  unfold startPolling
  dsimp only
  split <;> rfl

theorem Swept.confined (h : s.Swept) {D : DeviceId → Prop} (hs : Steady s s')
    (hT : TelemetryState.Confined (fun d => D d ∨ s.telemetry.Known d) s.telemetry s'.telemetry)
    (hD : ∀ d, D d → s.control.desire d ≠ none) (ht : s'.Each (Attends s.control.desire)) : s'.Swept := by
  refine ⟨fun d hd => ?_, by rwa [hs.desire], hT.keyed h.keyed, by rw [hs.trace]; exact h.recorded⟩
  rw [hs.desire] at hd
  have he := h.erased d hd
  refine ⟨by rw [hs.connectedDevice]; exact he.connectedDevice, by rw [hs.client]; exact he.client,
    hT.clean ?_ he.telemetry⟩
  rintro (hx | hx)
  · exact hD d hx hd
  · exact TelemetryState.not_known_of_clean he.telemetry hx

theorem Swept.steady (h : s.Swept) (hs : Steady s s') (hT : s'.telemetry = s.telemetry)
    (ht : s'.Each (Attends s.control.desire)) : s'.Swept :=
  h.confined (D := fun _ => False) hs (hT ▸ .refl _) (fun _ => False.elim) ht

theorem Swept.update (h : s.Swept) (d : DeviceId) (f : DeviceRow → DeviceRow) : (s.updateDevice d f).Swept := by
  have hnone : ∀ d', (s.updateDevice d f).control.desire d' = none ↔ s.control.desire d' = none := by
    intro d'
    rw [desire_updateDevice]
    split
    · rename_i hd
      subst hd
      simp [control]
    · exact Iff.rfl
  refine ⟨fun d' hd' => ?_, h.tasks.imp (fun k hk d' ha => ?_), h.keyed, h.recorded⟩
  · have he := h.erased d' ((hnone d').mp hd')
    exact ⟨he.connectedDevice, he.client, he.telemetry⟩
  · exact fun hx => hk d' ha ((hnone d').mp hx)

theorem Swept.removeDevice (h : s.Swept) (ha : s.control.Abandoned d) (hd : s.connectedDevice ≠ some d) (now : Time) :
    (s.removeDevice d now).Swept := by
  refine ⟨fun d' hd' => ?_, fun u k hk d' hat => ?_, (TelemetryState.remove_confined _ d now).keyed h.keyed,
    fun d' link registered hm => ?_⟩
  · by_cases hne : d' = d
    · subst hne
      exact ⟨hd, ha.client, TelemetryState.remove_clean _ _ now⟩
    · rw [desire_removeDevice, if_neg hne] at hd'
      have he := h.erased d' hd'
      refine ⟨he.connectedDevice, he.client, (TelemetryState.remove_confined _ d now).clean ?_ he.telemetry⟩
      exact fun hx => hx.elim hne (TelemetryState.not_known_of_clean he.telemetry)
  · rw [desire_removeDevice]
    have hne : d' ≠ d := by
      rintro rfl
      cases (ha.tasks u k hk).symm.trans hat
    rw [if_neg hne]
    exact h.tasks u k hk d' hat
  · rcases List.mem_cons.mp hm with he | hm
    · cases he
    · exact h.recorded d' link registered hm

theorem Swept.log (h : s.Swept) (item : TraceItem) (hi : ∀ d link registered, .recorded d link registered ≠ item) :
    (s.log item).Swept := by
  refine ⟨fun d hd => ?_, h.tasks, h.keyed, fun d link registered hm => ?_⟩
  · have he := h.erased d hd
    exact ⟨he.connectedDevice, he.client, he.telemetry⟩
  · rcases List.mem_cons.mp hm with he | hm
    · exact absurd he (hi d link registered)
    · exact h.recorded d link registered hm

theorem Swept.registered (h : s.Swept) (hk : s.tasks.get? t = some task) (ha : task.frame.role.attends d = true) :
    s.control.desire d ≠ none := h.tasks t task hk d ha

theorem Swept.move (hc : s.control.Coherent (some t) n) (hk : s.tasks.get? t = some task) (h : s.Swept)
    (hm : Move deletionGuards t task n s s') : s'.Swept := by
  have ht : s'.Each (Attends s.control.desire) := by
    refine h.tasks.move hm (fun _ ha => ha.cancel) (fun f hf => ?_)
    cases hf with
    | event row => exact fun d ha => by cases ha
    | @recovery d immediate _ _ hw =>
      intro d' ha
      obtain rfl : d = d' := by
        simpa [Frame.role, Role.attends, Role.touches, Role.serves, Role.executes, Role.recovers, Role.polls] using ha
      simp [hw.2]
    | @polling d hx _ =>
      intro d' ha
      obtain rfl : d = d' := by
        simpa [Frame.role, Role.attends, Role.touches, Role.serves, Role.executes, Role.recovers, Role.polls] using ha
      exact h.registered hk (Role.attends_of_executes hx)
  cases hm with
  | quiet hq =>
    refine h.confined (steady_of_control hq.control) hq.telemetry (fun d hd => ?_) ht
    exact h.registered hk (Role.attends_of_touches hd)
  | select _ _ => exact h.update _ _
  | mark _ status error now _ =>
    exact h.steady (steady_markOperation _ status error now) (telemetry_markOperation _ status error now) ht
  | event id => exact h.steady (steady_scheduleEvent id) (telemetry_scheduleEvent id) ht
  | scheduleRecovery d immediate _ _ _ _ =>
    exact h.steady (steady_scheduleRecovery d immediate) (telemetry_scheduleRecovery d immediate) ht
  | startPolling _ _ => exact h.steady (steady_startPolling _) (telemetry_startPolling _) ht
  | discover results =>
    have hlog := h.log (.discovered (s.adapter.candidates results)) (by simp)
    refine ⟨fun d hd => ?_, ht, h.keyed, hlog.recorded⟩
    have he := h.erased d hd
    exact ⟨he.connectedDevice, he.client, he.telemetry⟩
  | connectCalled _ _ | succeeded _ | attempt _ _ => exact h.log _ (by simp)
  | commit observed _ _ _ _ => exact h.update _ _
  | disconnected _ _ => exact h.update _ _
  | unlink =>
    refine ⟨fun d hd => ?_, ht, h.keyed, h.recorded⟩
    have he := h.erased d hd
    exact ⟨he.connectedDevice, fun link hl => (by cases hl), he.telemetry⟩
  | @link call row candidate hf hl =>
    refine ⟨fun d hd => ?_, ht, h.keyed, h.recorded⟩
    have he := h.erased d hd
    refine ⟨he.connectedDevice, ?_, he.telemetry⟩
    rintro link ⟨⟩ rfl
    have hv : (Frame.procedure call row (.connecting candidate)).Valid := hf ▸ (hc.tasks t task hk).valid
    exact h.registered hk (Role.attends_of_executes (executes_of_role (by rw [hf]; rfl) (hv.2 rfl))) hd
  | @connected d hx =>
    refine ⟨fun d' hd' => ?_, ht, h.keyed, h.recorded⟩
    have he := h.erased d' hd'
    refine ⟨?_, he.client, he.telemetry⟩
    rintro ⟨⟩
    exact h.registered hk (Role.attends_of_executes hx) hd'
  | @releaseAdapter call id _ _ _ _ _ =>
    have hm : (s.releaseAdapter id).Swept := by
      refine ⟨fun d hd => ?_, h.tasks, h.keyed, h.recorded⟩
      have he := h.erased d hd
      exact ⟨fun hx => (by cases hx), he.client, he.telemetry⟩
    exact hm.update _ _
  | record d link snapshot now hr _ _ =>
    have hreg : s.control.desire d ≠ none := by
      rcases hr with hr | hr
      · exact h.registered hk (Role.attends_of_executes hr)
      · exact h.registered hk (Role.attends_of_polls hr)
    have hT := TelemetryState.record_confined s.telemetry d snapshot now
    refine ⟨fun d' hd' => ?_, ht, hT.keyed h.keyed, fun d' link' registered hm => ?_⟩
    · have he := h.erased d' hd'
      refine ⟨he.connectedDevice, he.client, hT.clean ?_ he.telemetry⟩
      rintro (rfl | hx)
      · exact hreg hd'
      · exact TelemetryState.not_known_of_clean he.telemetry hx
    · rcases List.mem_cons.mp hm with he | hm
      · cases he
        exact Option.isSome_iff_ne_none.mpr (fun hx => hreg (desire_eq_none.mpr hx))
      · exact h.recorded d' link' registered hm
  | remove now _ hd hg => exact h.removeDevice hg hd now
  | removeConnected now _ hk' _ hg _ =>
    have hm : (s.release.setConnected none).Swept := by
      refine ⟨fun d hd => ?_, h.tasks, h.keyed, h.recorded⟩
      have he := h.erased d hd
      exact ⟨fun hx => (by cases hx), he.client, he.telemetry⟩
    exact hm.removeDevice ⟨hg.tasks, hg.client⟩ (by simp [setConnected]) now
  | _ => exact h.steady ⟨rfl, rfl, rfl, rfl, rfl, rfl⟩ rfl ht

theorem Swept.park (hk : s.tasks.get? t = some task) (h : s.Swept) {G : Guards} (hp : Park G t task n s s') :
    s'.Swept := by
  have ht : s'.Each (Attends s.control.desire) := by
    refine h.tasks.park hk hp (fun f hf _ d ha => ?_)
    exact h.registered hk (hf.role.attends ha)
  cases hp <;> exact h.steady ⟨rfl, rfl, rfl, rfl, rfl, rfl⟩ rfl ht

theorem Swept.register (h : s.Swept) (row : DeviceRow) :
    ((({ s with store := s.store.saveDevice row, trace := .registered row.deviceId :: s.trace } : Service).viewDevice
      row.deviceId).spawn (.registerHeartbeat row.deviceId .disconnected)).Swept := by
  have hd := fun d => desire_register (s := s) d row (.registered row.deviceId :: s.trace)
  generalize hm :
    ({ s with store := s.store.saveDevice row, trace := .registered row.deviceId :: s.trace } : Service) = m at hd
  have hnew : ∀ d, s.control.desire d ≠ none ∨ d = row.deviceId → m.control.desire d ≠ none := by
    intro d hx
    rw [hd]
    split
    · simp
    · rename_i hne
      exact hx.resolve_right hne
  have hold : s.Each (Attends m.control.desire) := h.tasks.imp (fun k hk d ha => hnew d (.inl (hk d ha)))
  have hT : TelemetryState.Confined (· = row.deviceId) s.telemetry (m.viewDevice row.deviceId).telemetry := by
    subst hm
    exact TelemetryState.ensureHeartbeat_confined _ _ _
  refine ⟨fun d hx => ?_, ?_, hT.keyed h.keyed, fun d link registered hmem => ?_⟩
  · have hx' : m.control.desire d = none := hx
    have hne : d ≠ row.deviceId := fun he => hnew d (.inr he) hx'
    rw [hd, if_neg hne] at hx'
    have he := h.erased d hx'
    subst hm
    exact ⟨he.connectedDevice, he.client, hT.clean hne he.telemetry⟩
  · subst hm
    refine hold.of_set rfl (fun d ha => hnew d (.inr ?_))
    simpa [Frame.role, Role.attends, Role.touches, Role.serves, Role.executes, Role.recovers, Role.polls,
      eq_comm] using ha
  · subst hm
    rcases List.mem_cons.mp hmem with he | hmem
    · cases he
    · exact h.recorded d link registered hmem

theorem Swept.accept (h : s.Swept) (action : ConnectionAction) (now : Time) (hd : s.control.desire d ≠ none) :
    (s.accept d action now).Swept := by
  have hnone : ∀ d', s.control.desire d' ≠ none → (s.accept d action now).control.desire d' ≠ none := by
    intro d' hx
    rw [desire_accept]
    split
    · simpa using hd
    · exact hx
  refine ⟨fun d' hd' => ?_, ?_, h.keyed, fun d' link registered hm => ?_⟩
  · have he := h.erased d' (by_contra (fun hx => hnone d' hx hd'))
    exact ⟨he.connectedDevice, he.client, he.telemetry⟩
  · have hold : s.Each (Attends (s.accept d action now).control.desire) :=
      h.tasks.imp (fun k hk d' ha => hnone d' (hk d' ha))
    refine hold.of_set rfl (fun d' ha => ?_)
    have hdev : action ≠ .disconnect ∧ d = d' := by
      simpa [Frame.role, Role.attends, Role.touches, Role.serves, Role.executes, Role.recovers, Role.polls] using ha
    exact hdev.2 ▸ hnone d hd
  · rcases List.mem_cons.mp hm with he | hm
    · cases he
    · exact h.recorded d' link registered hm

theorem Swept.request (h : s.Swept) (hr : Request deletionGuards s s') : s'.Swept := by
  have hother : ∀ {f : Frame}, (∀ d, f.role.attends d = false) → Attends s.control.desire ⟨f, false⟩ :=
    fun hf d ha => by cases (hf d).symm.trans ha
  cases hr with
  | quiet hq =>
    refine h.confined (steady_of_control hq.control) hq.telemetry (fun d hd hx => ?_)
      (h.tasks.of_tasks (congrArg Control.tasks hq.control))
    rw [desire_eq_none.mp hx] at hd
    cases hd
  | unlink =>
    refine ⟨fun d hd => ?_, h.tasks, h.keyed, h.recorded⟩
    have he := h.erased d hd
    exact ⟨he.connectedDevice, fun link hl => (by cases hl), he.telemetry⟩
  | startScan now =>
    exact h.steady ⟨rfl, rfl, rfl, rfl, rfl, rfl⟩ rfl (h.tasks.of_set rfl (hother (fun _ => rfl)))
  | register row hn _ _ _ _ _ => exact h.register row
  | patch d patch candidate _ _ _ => exact h.update _ _
  | @deleteRecovering d u _ _ =>
    exact h.steady ⟨rfl, rfl, rfl, rfl, rfl, rfl⟩ rfl
      ((h.tasks.stopRecovery (fun _ ha => ha.cancel) d u).spawn (hother (fun _ => rfl)))
  | @deletePolling d u _ _ =>
    exact h.steady ⟨rfl, rfl, rfl, rfl, rfl, rfl⟩ rfl
      ((h.tasks.stopPolling (fun _ ha => ha.cancel) d u).spawn (hother (fun _ => rfl)))
  | deleteConnected _ =>
    exact h.steady ⟨rfl, rfl, rfl, rfl, rfl, rfl⟩ rfl (h.tasks.spawn (hother (fun _ => rfl)))
  | delete now _ _ hd hg => exact h.removeDevice hg hd now
  | join _ _ => exact h.log _ (by simp)
  | @accept d action now hd _ _ _ => exact h.accept action now (fun hx => by simp [desire_eq_none.mp hx] at hd)
  | close =>
    refine ⟨fun d hd => ?_, ?_, h.keyed, h.recorded⟩
    · have he := h.erased d hd
      exact ⟨he.connectedDevice, he.client, he.telemetry⟩
    · exact (h.tasks.cancel (fun _ ha => ha.cancel) s.discoveryTask).of_set rfl (hother (fun _ => rfl))
  | @adopt d ho =>
    have hm : ({ s with owner := some d } : Service).Swept := by
      refine ⟨fun d' hd' => ?_, h.tasks, h.keyed, h.recorded⟩
      have he := h.erased d' hd'
      exact ⟨he.connectedDevice, he.client, he.telemetry⟩
    refine hm.steady (steady_scheduleRecovery d true) (telemetry_scheduleRecovery d true) ?_
    refine hm.tasks.scheduleRecovery (fun hw d' ha => ?_)
    obtain rfl : d = d' := by
      simpa [Frame.role, Role.attends, Role.touches, Role.serves, Role.executes, Role.recovers, Role.polls] using ha
    simp [hw.2]

theorem initial_clean {T : TelemetryState} (h : T.Initial) (d : DeviceId) : T.Clean d := by
  obtain ⟨_, _, _, _, _, _, _, _, _, rfl⟩ := h
  exact ⟨rfl, rfl, fun _ _ => rfl⟩

theorem initial_keyed {T : TelemetryState} (h : T.Initial) : T.Keyed := by
  obtain ⟨_, _, _, _, _, _, _, _, _, rfl⟩ := h
  intro k e he
  cases he

theorem swept_startDiscovery {boot : Service} (hc : boot.connectedDevice = none) (ht : boot.tasks = Dict.empty)
    (hk : boot.adapter.client = none) (hT : boot.telemetry.Initial)
    (hr : ∀ d link registered, .recorded d link registered ∈ boot.trace → registered = true) (now : Time) :
    (boot.startDiscovery now).Swept := by
  refine ⟨fun d _ => ⟨?_, ?_, initial_clean hT d⟩, Each.of_set (s := boot) (f := .discovery .starting) ?_ rfl ?_,
    initial_keyed hT, hr⟩
  · intro hd
    cases hc.symm.trans hd
  · intro link hl
    cases hk.symm.trans hl
  · intro u task hu
    rw [ht] at hu
    cases hu
  · exact fun d ha => by cases ha

theorem preserved_swept : Preserved deletionGuards Swept where
  move hc hk h hm := h.move hc hk hm
  park _ hk h hp := h.park hk hp
  request _ h hr := h.request hr
  restart {s} now _ h :=
    @swept_startDiscovery s.successor rfl rfl rfl ⟨_, _, _, _, _, _, _, _, _, rfl⟩ h.recorded now

end Moves

section Waited

variable {x : Option TaskId} {G : Guards} {ts : List TaskId} {point : DeletePoint}

structure Waits (s : Service) (point : DeletePoint) : Prop where
  bound : ∀ w ∈ point.waited ++ point.awaited, w < s.nextTask
  ended : s.ended point.waited = true

def Waited (s : Service) : Prop :=
  ∀ u k d point, s.tasks.get? u = some k → k.frame = .deletion d point → s.Waits point

theorem done_of_ended (h : s.ended ts = true) {w : TaskId} (hw : w ∈ ts) {k : Task} (hk : s.tasks.get? w = some k) :
    k.done = true := by
  have hdone := List.all_eq_true.mp h w hw
  rw [hk] at hdone
  exact hdone

theorem Task.stopped_of_done {k : Task} (h : k.done = true) : k.Stopped := by
  unfold Task.done at h
  split at h
  · rename_i d hf
    exact .inr ⟨d, hf⟩
  · cases h

theorem ended_carries (hcar : Carries x s s')
    (hx : ∀ v k, x = some v → s.tasks.get? v = some k → k.done = true → s'.tasks.get? v = none)
    (hlt : ∀ w ∈ ts, w < s.nextTask) (h : s.ended ts = true) : s'.ended ts = true := by
  refine List.all_eq_true.mpr (fun w hw => ?_)
  cases hk : s.tasks.get? w with
  | none =>
    rw [hcar.gone w (hlt w hw) hk]
    rfl
  | some k =>
    have hdone := done_of_ended h hw hk
    by_cases hxw : x = some w
    · rw [hx w k hxw hk hdone]
      rfl
    · obtain ⟨k', hk', hf, -⟩ := hcar.kept w k hxw hk
      rw [hk']
      simpa [Task.done, hf] using hdone

theorem Waits.carries (h : s.Waits point) (hcar : Carries x s s')
    (hx : ∀ v k, x = some v → s.tasks.get? v = some k → k.done = true → s'.tasks.get? v = none) : s'.Waits point :=
  ⟨fun w hw => (h.bound w hw).trans_le hcar.next,
    ended_carries hcar hx (fun w hw => h.bound w (List.mem_append_left _ hw)) h.ended⟩

theorem Waited.request (hc : s.Coherent) (h : s.Waited) (hr : Request G s s') : s'.Waited := by
  intro u k d point hu hf
  have hwaits : s.Waits point := by
    cases arises_request hr u k hu with
    | spawned hnew hk' =>
      rw [hk'] at hf
      cases hnew <;> cases hf
      rename_i hw ha
      refine ⟨fun w hmem => ?_, by rw [hw]; rfl⟩
      rw [hw] at hmem
      rcases ha w hmem with ⟨d', hd'⟩ | ⟨d', hd'⟩
      · obtain ⟨k', hk', -⟩ := hc.recoveries d' w hd'
        exact lt_nextTask hc hk'
      · obtain ⟨k', hk', -⟩ := hc.pollingTasks d' w hd'
        exact lt_nextTask hc hk'
    | @kept old hold hk' =>
      refine h u old d point hold ?_
      rcases hk' with rfl | rfl
      · exact hf
      · rwa [Task.cancel_frame] at hf
  exact hwaits.carries (x := none) (carries_request hc hr) (fun _ _ hx => by cases hx)

theorem waits_deletePolling (hc : s.Coherent) (hlt : ∀ w ∈ ts, w < s.nextTask) (h : s.ended ts = true) :
    s.Waits (s.deletePolling d ts).2 := by
  unfold deletePolling
  split
  · rename_i u hu
    obtain ⟨k, hk, -⟩ := hc.pollingTasks d u hu
    refine ⟨fun w hw => ?_, h⟩
    rcases List.mem_append.mp hw with hw | hw
    · exact hlt w hw
    · exact List.mem_singleton.mp hw ▸ lt_nextTask hc hk
  · exact ⟨fun w hw => hlt w (by simpa [DeletePoint.waited, DeletePoint.awaited] using hw), h⟩

theorem waits_resumeDeletion (hc : s.Coherent) (hw : s.Waits point) {outcome : Outcome} {now : Time}
    (hs : s.resumeDeletion t d point outcome now = some s') {k : Task} (hk : s'.tasks.get? t = some k)
    {d' : DeviceId} {point' : DeletePoint} (hf : k.frame = .deletion d' point') : s.Waits point' := by
  have hself : ∀ {m : Service} {p : DeletePoint}, (m.suspend t (.deletion d p)).tasks.get? t = some k → p = point' := by
    intro m p hk'
    rcases get?_suspend hk' with ⟨-, old, -, rfl⟩ | ⟨hne, -⟩
    · cases hf
      rfl
    · exact absurd rfl hne
  unfold resumeDeletion at hs
  split at hs
  case h_1 v =>
    split at hs <;> cases hs
    rename_i he
    unfold deleteRecoveryStopped at hk
    split at hk
    · rw [← hself hk]
      exact waits_deletePolling hc
        (fun w hmem => hw.bound w (by simpa [DeletePoint.waited, DeletePoint.awaited] using hmem)) he
    · exact absurd rfl (get?_endTask hk).1
  case h_2 waited v =>
    split at hs <;> cases hs
    rename_i he
    rw [← hself hk]
    refine ⟨fun w hmem => hw.bound w ?_, ?_⟩
    · simpa [DeletePoint.waited, DeletePoint.awaited, or_comm] using hmem
    · have hwaited : s.ended waited = true := hw.ended
      simp only [DeletePoint.waited, ended, List.all_cons, List.all_nil, Bool.and_true,
        Bool.and_eq_true] at he hwaited ⊢
      exact ⟨he, hwaited⟩
  case h_3 waited =>
    split at hs <;> cases hs
    rw [← hself hk]
    exact ⟨hw.bound, hw.ended⟩
  case h_4 =>
    cases hs
    exact absurd rfl (get?_endTask hk).1
  case h_5 => cases hs

theorem resumeDeletion_of_resume (hk : s.tasks.get? t = some task) (hr : task.frame.role = .deletion d)
    {outcome : Outcome} {now clock : Time} (hs : s.resume t outcome now clock = some s') :
    ∃ point, task.frame = .deletion d point ∧ task.cancelled = false ∧
    s.resumeDeletion t d point outcome now = some s' := by
  unfold Service.resume at hs
  rw [hk] at hs
  dsimp only at hs
  cases hf : task.frame with
  | deletion d' point =>
    rw [hf] at hs hr
    cases hr
    split at hs
    · cases hs
    · rename_i hc
      refine ⟨point, rfl, by simpa using hc, ?_⟩
      cases outcome <;> exact hs
  | _ =>
    rw [hf] at hr
    cases hr

theorem ended_awaited {outcome : Outcome} {now : Time} (hs : s.resumeDeletion t d point outcome now = some s') :
    s.ended point.awaited = true := by
  unfold resumeDeletion at hs
  split at hs
  case h_1 | h_2 => exact (Option.ite_none_right_eq_some.mp hs).1
  case h_3 | h_4 => rfl
  case h_5 => cases hs

theorem Waited.segment (hc : s.Coherent) (h : s.Waited) (hk : s.tasks.get? t = some task) {outcome : Outcome}
    {now clock : Time} (hs : s.resume t outcome now clock = some s') (hseg : Segment G t task s.nextOperation s s') :
    s'.Waited := by
  obtain ⟨m, hm, hp⟩ := hseg
  have hkm := (coherent_moves hc hk hm).2
  have hcar : Carries (some t) s s' := carries_segment hc hk ⟨m, hm, hp⟩
  have hgone : ∀ v k, some t = some v → s.tasks.get? v = some k → k.done = true → s'.tasks.get? v = none := by
    intro v k hv hkv hdone
    obtain rfl := Option.some.inj hv
    obtain rfl := Option.some.inj (hk.symm.trans hkv)
    exact stopped_resume hk hp hkm (Task.stopped_of_done hdone) hs
  -- the moves start no deletion
  have hkept : ∀ u k d point, m.tasks.get? u = some k → k.frame = .deletion d point → s.Waits point := by
    have hall : m.Each (fun k => ∀ d point, k.frame = .deletion d point → s.Waits point) := by
      clear hp hkm hcar hgone
      induction hm with
      | refl => exact fun u k hu d point => h u k d point hu
      | tail _ hmove ih =>
        refine ih.arises (arises_move hmove) (fun k hk' d point hf => ?_) (fun f hf d point he => ?_)
        · rw [Task.cancel_frame] at hf
          exact hk' d point hf
        · cases hf <;> cases he
    exact fun u k d point hu => hall u k hu d point
  intro u k d point hu hf
  by_cases hut : u = t
  · subst hut
    obtain ⟨-, -, hrole⟩ := park_self hp hkm hu
    have hr : task.frame.role = .deletion d := by
      rw [show k.frame.role = .deletion d by rw [hf]; rfl] at hrole
      exact hrole.of_deletion
    obtain ⟨point₀, hf₀, -, hs'⟩ := resumeDeletion_of_resume hk hr hs
    exact (waits_resumeDeletion hc (h u task d point₀ hk hf₀) hs' hu hf).carries hcar hgone
  · have hu' : m.tasks.get? u = some k := (park_others hp).1 u hut ▸ hu
    exact (hkept u k d point hu' hf).carries hcar hgone

theorem Waited.requests (hc : s.Coherent) (h : s.Waited) (hr : ReflTransGen (Request G) s s') :
    s'.Coherent ∧ s'.Waited := by
  induction hr with
  | refl => exact ⟨hc, h⟩
  | tail _ hr ih => exact ⟨coherent_request ih.1 hr, ih.2.request ih.1 hr⟩

theorem waited_startDiscovery {boot : Service} (ht : boot.tasks = Dict.empty) (now : Time) :
    (boot.startDiscovery now).Waited := by
  intro u k d point hk hf
  obtain rfl := get?_startDiscovery ht hk
  cases hf

theorem waited_of_reachable (h : Reachable Started step s) : s.Coherent ∧ s.Waited := by
  refine Reaches.invariant (I := fun s => s.Coherent ∧ s.Waited) ?_ ?_ h
  · rintro s ⟨boot, now, hb, rfl⟩
    exact (waited_startDiscovery hb.tasks now).requests (hb.coherent now) (request_start (G := {}) hb.tasks now)
  · rintro s a s' ⟨hc, hw⟩ - hs
    have he := evolves_step (G := {}) hc {} hs
    refine ⟨coherent_evolves hc he, ?_⟩
    cases he with
    | segment hk hr _ hseg => exact hw.segment hc hk hr hseg
    | request hreq => exact (hw.requests hc hreq).2
    | restart now hreq =>
      have hstart : (s.successor.startDiscovery now).Waited := waited_startDiscovery rfl now
      exact (hstart.requests (coherent_create hc.stored now) hreq).2

end Waited

section Results

def collected (s : Service) (a : Action) : List TaskId :=
  match s.acting a with
  | some (.deletion _ point) => point.waited ++ point.awaited
  | _ => []

/-- Beside what this call of `delete_device` has cancelled, and the link that it has closed, nothing is
left of the device. -/
structure Vacated (s : Service) (a : Action) (d : DeviceId) : Prop where
  tasks : ∀ u k, s.tasks.get? u = some k → k.frame.role.attends d = true → u ∈ s.collected a ∧ k.done = false
  client : s.clears a = none → ∀ link, s.adapter.client = some link → link.device ≠ d

instance (s : Service) (a : Action) (d : DeviceId) : Decidable (s.Vacated a d) :=
  decidable_of_iff ((∀ e ∈ s.tasks.entries, e.2.frame.role.attends d = true → e.1 ∈ s.collected a ∧ e.2.done = false) ∧
      (s.clears a = none → ∀ link ∈ s.adapter.client, link.device ≠ d)) (by
    constructor
    · exact fun h => ⟨fun u k hk => h.1 (u, k) (Dict.mem_entries_iff.mpr hk), h.2⟩
    · exact fun h => ⟨fun e he => h.tasks e.1 e.2 (Dict.mem_entries_iff.mp he), h.client⟩)

def Abandons (s : Service) (a : Action) : Prop := ∀ d, s.removes a = some d → s.Vacated a d

instance (s : Service) (a : Action) : Decidable (s.Abandons a) :=
  decidable_of_iff (∀ d ∈ s.removes a, s.Vacated a d) Iff.rfl

theorem Vacated.abandoned (h : Reachable Started step s) {a : Action} (hv : s.Vacated a d) (hs : s.step a = some s') :
    s.control.Abandoned d := by
  obtain ⟨hc, hw⟩ := waited_of_reachable h
  have hact : ∀ f, s.acting a = some f → ∃ t task outcome now clock, a = .resume t outcome now clock ∧
      s.tasks.get? t = some task ∧ task.frame = f := by
    intro f hf
    cases a with
    | resume t outcome now clock =>
      obtain ⟨task, hk, hx⟩ := Option.bind_eq_some_iff.mp hf
      exact ⟨t, task, outcome, now, clock, rfl, hk, Option.some.inj (Option.ite_none_left_eq_some.mp hx).2⟩
    | _ => cases hf
  refine ⟨fun u k hk => Bool.eq_false_iff.mpr (fun hat => ?_), fun link hl => ?_⟩
  · obtain ⟨hmem, hlive⟩ := hv.tasks u k hk hat
    unfold collected at hmem
    split at hmem
    · rename_i d' point ha
      obtain ⟨t, task, outcome, now, clock, rfl, ht, hf⟩ := hact _ ha
      have hended : u ∈ point.waited ∨ u ∈ point.awaited → k.done = true := by
        rintro (hu | hu)
        · exact done_of_ended (hw t task d' point ht hf).ended hu hk
        · obtain ⟨point', hf', -, hs'⟩ := resumeDeletion_of_resume (d := d') ht (by rw [hf]; rfl) hs
          cases hf.symm.trans hf'
          exact done_of_ended (ended_awaited hs') hu hk
      cases (hended (List.mem_append.mp hmem)).symm.trans hlive
    · cases hmem
  · cases hcl : s.clears a with
    | none => exact hv.client hcl link hl
    | some d' =>
      have ha : ∃ ts, s.acting a = some (.deletion d' (.disconnecting ts)) := by
        unfold clears at hcl
        split at hcl
        · rename_i e ts ha
          cases hcl
          exact ⟨ts, ha⟩
        · cases hcl
      obtain ⟨ts, ha⟩ := ha
      obtain ⟨t, task, -, -, -, -, ht, hf⟩ := hact _ ha
      cases ((hc.tasks t task ht).cut (by simp) (by rw [hf]; rfl)).symm.trans hl

theorem swept_of_reaches (h : Reaches Started step Abandons s) : s.Swept := by
  have hr : Reaches Started step (fun s a => ∀ d, s.removes a = some d → s.control.Abandoned d) s :=
    h.imp (fun _ _ _ hreach ha hs d hd => (ha d hd).abandoned hreach hs)
  refine (preserved_swept.reaches (fun _ hs => hs) ?_ (fun s a ha => { remove := ha }) hr).2
  rintro boot now ⟨settings, store, T, id, nextOperation, hT, -, rfl⟩ -
  exact swept_startDiscovery rfl rfl rfl hT (fun _ _ _ hm => by cases hm) now

theorem deletion_leaves_nothing (h : Reaches Started step Abandons s) :
    (∀ d, s.store.device d = none → s.Erased d ∧ (∀ e ∈ s.telemetry.events.retainedState, e.deviceId ≠ some d) ∧
      ∀ u task, s.tasks.get? u = some task → task.frame.role.attends d = false) ∧
    ∀ d link registered, .recorded d link registered ∈ s.trace → registered = true := by
  have hs := swept_of_reaches h
  refine ⟨fun d hd => ?_, hs.recorded⟩
  have he := hs.erased d (desire_eq_none.mpr hd)
  refine ⟨he, he.telemetry.retainedState hs.keyed, fun u task hk => ?_⟩
  by_contra ha
  exact hs.tasks u task hk d (by simpa using ha) (desire_eq_none.mpr hd)

def deletedAfterUse : List Action :=
  registerBoth ++
  [.startConnectionOperation "igrill-v202-a" .connect 0, go 3, go 3, .resume 3 .linked 0 0,
   .resume 3 (.read (TelemetryState.sampleSnapshot 0 1 Nat.one_pos)) 0 0, go 4, go 5, go 4,
   .deleteDevice "igrill-v202-a" 0, go 4, go 6, go 6, go 6]

theorem deletion_leaves_nothing_afterUse :
    ∃ s, replay step firstSession deletedAfterUse = some s ∧ s.store.device "igrill-v202-a" = none ∧
      s.Erased "igrill-v202-a" := by
  have hrun : (replayIf (fun s a => decide (s.Abandons a)) step firstSession deletedAfterUse).map
      (fun s => (s.store.device "igrill-v202-a").isNone) = some true := by decide +kernel
  obtain ⟨s, hs, hd⟩ := Option.map_eq_some_iff.mp hrun
  have hr : Reaches Started step Abandons s :=
    .of_replayIf (fun _ _ => of_decide_eq_true) (.init firstSession_started) hs
  have hd' : s.store.device "igrill-v202-a" = none := by simpa using hd
  exact ⟨s, replay_of_replayIf hs, hd', ((deletion_leaves_nothing hr).1 _ hd').1⟩

/-- A device is deleted before its heartbeat is registered. -/
def deletedEarly : List Action :=
  [go 0, go 0, go 0, .resume 0 bothFound 0 0, .register 0 none true "" 0, .deleteDevice "igrill-v202-a" 0, go 1]

theorem not_deletion_leaves_nothing :
    ¬ ∀ s, Reachable Started step s → ∀ d, s.store.device d = none → s.Erased d := by
  intro hall
  have hrun : (replay step firstSession deletedEarly).map
      (fun s => ((s.store.device "igrill-v202-a").isNone, (s.telemetry.heartbeats.get? "igrill-v202-a").isSome)) =
      some (true, true) := by decide +kernel
  obtain ⟨s, hs, he⟩ := Option.map_eq_some_iff.mp hrun
  obtain ⟨hd, hh⟩ := Prod.mk.inj he
  have hr : Reachable Started step s := .of_replay (.init firstSession_started) hs
  have herased := hall s hr "igrill-v202-a" (by simpa using hd)
  rw [herased.telemetry.heartbeats] at hh
  cases hh

end Results

end Service

end PitbluCore
