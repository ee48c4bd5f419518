import PitbluCore.ServiceOwnership

namespace PitbluCore.Service

open Library

variable {s s' : Service} {t : TaskId} {task : Task} {n : OperationId}

def Reads (task : Task) : Prop :=
  ∀ link d, task.frame.link = some link → task.frame.role.executes d = true ∨ task.frame.role.polls d = true →
    link.device = d

structure Attributed (s : Service) : Prop where
  owned : s.Owned
  client : ∀ link, s.adapter.client = some link → s.owner = some link.device
  tasks : s.Each Reads
  recorded : ∀ d link registered, .recorded d link registered ∈ s.trace → link.device = d

/-- A device that owns the adapter is deleted only when no link is open. -/
structure Severs (s : Service) (a : Action) : Prop where
  yields : s.Yields a
  remove : ∀ d, s.removes a = some d → s.owner = some d → s.adapter.client = none

instance (s : Service) (a : Action) : Decidable (s.Severs a) :=
  decidable_of_iff (s.Yields a ∧ ∀ d ∈ s.removes a, s.owner = some d → s.adapter.client = none)
    ⟨fun h => ⟨h.1, h.2⟩, fun h => ⟨h.yields, h.remove⟩⟩

def attributionGuards : Guards where
  release d c := c.Released d
  remove d c := c.owner = some d → c.Idle d ∧ c.client = none

theorem Severs.promised {a : Action} (h : s.Severs a) : attributionGuards.Promised s a where
  release := h.yields.release
  remove d hd ho := ⟨h.yields.remove d hd ho, h.remove d hd ho⟩

theorem yielding_attribution : Yielding attributionGuards := ⟨fun _ _ h => h, fun _ _ h ho => (h ho).1⟩

theorem reads_of_link {f : Frame} {cancelled : Bool} (h : f.link = none) : Reads ⟨f, cancelled⟩ := by
  intro link d hl
  cases h.symm.trans hl

theorem Reads.cancel (h : Reads task) : Reads task.cancel := by
  unfold Reads at *
  rwa [Task.cancel_frame]

theorem link_of_spawns {f : Frame} (h : Spawns G s task f) : f.link = none := by cases h <;> rfl

theorem Attributed.logged (h : s.Attributed) {item : TraceItem}
    (hi : ∀ d link registered, item ≠ .recorded d link registered) :
    ∀ d link registered, .recorded d link registered ∈ item :: s.trace → link.device = d := by
  intro d link registered hr
  exact h.recorded d link registered ((List.mem_cons.mp hr).resolve_left (fun he => hi d link registered he.symm))

theorem Attributed.removeDevice (h : s.Attributed) {d : DeviceId} {now : Time} (ho : (s.removeDevice d now).Owned)
    (hg : s.owner = some d → s.adapter.client = none) : (s.removeDevice d now).Attributed := by
  refine ⟨ho, fun link hl => ?_, h.tasks, h.logged (fun _ _ _ he => by cases he)⟩
  have hl' : s.adapter.client = some link := hl
  have hne : s.owner ≠ some d := fun hown => by cases (hg hown).symm.trans hl'
  exact (if_neg hne).trans (h.client link hl')

theorem Attributed.move (hc : s.control.Coherent (some t) n) (hk : s.tasks.get? t = some task) (h : s.Attributed)
    (hm : Move attributionGuards t task n s s') : s'.Attributed := by
  have ho := h.owned.move yielding_attribution hk hm
  have ht : s'.Each Reads := h.tasks.move hm (fun _ hr => hr.cancel) (fun f hf => reads_of_link (link_of_spawns hf))
  have hsteady : Steady s s' → s'.Attributed := by
    intro hs
    refine ⟨ho, ?_, ht, ?_⟩
    · rw [hs.client, hs.owner]
      exact h.client
    · rw [hs.trace]
      exact h.recorded
  cases hm with
  | quiet hq => exact hsteady (steady_of_control hq.control)
  | select _ _ => exact hsteady (steady_of_control (control_select _ _))
  | discover results => exact ⟨ho, h.client, ht, h.logged (fun _ _ _ he => by cases he)⟩
  | mark _ status error now _ => exact hsteady (steady_markOperation _ status error now)
  | event id => exact hsteady (steady_scheduleEvent id)
  | scheduleRecovery d immediate _ _ => exact hsteady (steady_scheduleRecovery d immediate)
  | startPolling _ _ => exact hsteady (steady_startPolling _)
  | unlink => exact ⟨ho, fun link hl => (by cases hl), ht, h.recorded⟩
  | @link call row candidate hf hl =>
    refine ⟨ho, fun link hlink => ?_, ht, h.recorded⟩
    cases hlink
    have hv : (Frame.procedure call row (.connecting candidate)).Valid := hf ▸ (hc.tasks t task hk).valid
    exact (h.owned.tasks t task hk).engaged _ (Task.engages_of_executes (executes_of_role (by rw [hf]; rfl) (hv.2 rfl)))
  | connectCalled _ _ | succeeded _ | attempt _ _ => exact ⟨ho, h.client, ht, h.logged (fun _ _ _ he => by cases he)⟩
  | releaseAdapter id _ _ hk _ _ _ =>
    refine ⟨ho, fun link hl => ?_, ht, h.recorded⟩
    cases hk.symm.trans hl
  | record d link snapshot now hr hf hlive =>
    refine ⟨ho, h.client, ht, fun d' link' registered hmem => ?_⟩
    rcases List.mem_cons.mp hmem with he | hmem
    · cases he
      exact h.tasks t task hk link d hf hr
    · exact h.recorded d' link' registered hmem
  | remove now _ _ hg => exact h.removeDevice ho (fun hown => (hg hown).2)
  | removeConnected now _ hk _ _ _ =>
    have hrel : (s.release.setConnected none).Attributed :=
      ⟨⟨fun d hd => (by cases hd), h.owned.tasks⟩, h.client, h.tasks, h.recorded⟩
    exact hrel.removeDevice ho (fun _ => hk)
  | _ => exact ⟨ho, h.client, ht, h.recorded⟩

theorem Attributed.park {G : Guards} (hc : s.control.Coherent (some t) n) (hk : s.tasks.get? t = some task)
    (h : s.Attributed) (hp : Park G t task n s s') : s'.Attributed := by
  have ho := h.owned.park hc hk hp
  have ht : s'.Each Reads := by
    refine h.tasks.park hk hp (fun f hf hlive link d hl hr => ?_)
    have he := (h.owned.tasks t task hk).handover (hc.tasks t task hk).valid hlive hf.role
    have hown : s.owner = some d := by
      apply he.engaged
      rcases hr with hr | hr <;> simp only [Task.engages, hr, hlive] <;> simp
    exact Option.some.inj ((h.client link (hf.link link hl)).symm.trans hown)
  cases hp <;> exact ⟨ho, h.client, ht, h.recorded⟩

theorem Attributed.request (h : s.Attributed) (hr : Request attributionGuards s s') : s'.Attributed := by
  have ho := h.owned.request yielding_attribution hr
  have ht : s'.Each Reads := by
    refine h.tasks.request hr (fun _ hk => hk.cancel) (fun f hf => reads_of_link ?_)
    cases hf <;> rfl
  cases hr with
  | quiet hq =>
    have hs := steady_of_control hq.control
    refine ⟨ho, ?_, ht, ?_⟩
    · rw [hs.client, hs.owner]
      exact h.client
    · rw [hs.trace]
      exact h.recorded
  | unlink => exact ⟨ho, fun link hl => (by cases hl), ht, h.recorded⟩
  | register row _ _ _ => exact ⟨ho, h.client, ht, h.logged (fun _ _ _ he => by cases he)⟩
  | join _ _ => exact ⟨ho, h.client, ht, h.logged (fun _ _ _ he => by cases he)⟩
  | accept action now _ _ hown =>
    refine ⟨ho, fun link hl => owner_accept hown now (h.client link hl), ht, h.logged (fun _ _ _ he => by cases he)⟩
  | @adopt d hown =>
    have hs : Steady { s with owner := some d } _ := steady_scheduleRecovery d true
    refine ⟨ho, fun link hl => ?_, ht, ?_⟩
    · rw [hs.client] at hl
      cases hown.symm.trans (h.client link hl)
    · rw [hs.trace]
      exact h.recorded
  | delete now _ _ _ hg => exact h.removeDevice ho (fun hown => (hg hown).2)
  | _ => exact ⟨ho, h.client, ht, h.recorded⟩

theorem attributed_startDiscovery {boot : Service} (hd : boot.connectedDevice = none) (ht : boot.tasks = Dict.empty)
    (hk : boot.adapter.client = none)
    (hr : ∀ d link registered, .recorded d link registered ∈ boot.trace → link.device = d) (now : Time) :
    (boot.startDiscovery now).Attributed := by
  refine ⟨owned_startDiscovery hd ht now, fun link hl => ?_,
    Each.of_set (s := boot) (f := .discovery .starting) ?_ rfl ?_,
    hr⟩
  · cases hk.symm.trans hl
  · intro u task hu
    rw [ht] at hu
    cases hu
  · exact reads_of_link rfl

theorem preserved_attributed : Preserved attributionGuards Attributed where
  move hc hk h hm := h.move hc hk hm
  park hc hk h hp := h.park hc hk hp
  request _ h hr := h.request hr
  restart now _ h := by
    refine attributed_startDiscovery rfl rfl rfl ?_ now
    exact h.recorded

theorem readings_attributed (h : Reaches Started step Severs s) {d : DeviceId} {link : Link} {registered : Bool}
    (hr : .recorded d link registered ∈ s.trace) : link.device = d := by
  refine ((preserved_attributed.reaches (fun _ hs => hs) ?_ (fun _ _ hy => hy.promised) h).2).recorded
    d link registered hr
  rintro boot now ⟨settings, store, T, id, nextOperation, -, -, rfl⟩ -
  exact attributed_startDiscovery rfl rfl rfl (fun _ _ _ hmem => by cases hmem) now

def recordings (s : Service) : List (DeviceId × DeviceId) :=
  s.trace.filterMap (fun item => match item with
    | .recorded d link _ => some (d, link.device)
    | _ => none)

theorem mem_recordings {d d' : DeviceId} (h : (d, d') ∈ s.recordings) :
    ∃ link registered, .recorded d link registered ∈ s.trace ∧ link.device = d' := by
  obtain ⟨item, hi, he⟩ := List.mem_filterMap.mp h
  cases item <;> cases he
  exact ⟨_, _, hi, rfl⟩

theorem readings_attributed_handover :
    ∃ s d link registered, replay step firstSession handover = some s ∧ .recorded d link registered ∈ s.trace ∧
      link.device = d := by
  have hrun : (replayIf (fun s a => decide (s.Severs a)) step firstSession handover).map recordings =
      some [("igrill-v202-b", "igrill-v202-b"), ("igrill-v202-a", "igrill-v202-a")] := by decide +kernel
  obtain ⟨s, hs, he⟩ := Option.map_eq_some_iff.mp hrun
  obtain ⟨link, registered, hm, -⟩ := mem_recordings (s := s) (he ▸ List.mem_cons_self)
  have hr : Reaches Started step Severs s :=
    .of_replayIf (fun _ _ => of_decide_eq_true) (.init firstSession_started) hs
  exact ⟨s, _, link, registered, replay_of_replayIf hs, hm, readings_attributed hr hm⟩

/-- The first device is deleted while an attempt to recover it reads its first snapshot; its link stays
open, and the adapter keeps it when the second device is connected. -/
def misread : List Action :=
  registerBoth ++
  [.startConnectionOperation "igrill-v202-a" .connect 0, go 3, go 3,
   .resume 3 (.raised ⟨"AdapterError", "device challenge read timed out"⟩) 0 0,
   go 5, go 5, go 5, go 5, .resume 5 (.released true) 0 0, go 5, .resume 5 bothFound 0 0, .resume 5 .linked 0 0,
   .deleteDevice "igrill-v202-a" 0, go 5, go 6,
   .startConnectionOperation "igrill-v202-b" .connect 0, go 7, go 7, .resume 7 bothFound 0 0,
   .resume 7 (.read (TelemetryState.sampleSnapshot 0 1 Nat.one_pos)) 0 0]

theorem not_readings_attributed :
    ¬ ∀ s, Reachable Started step s → ∀ d link registered, .recorded d link registered ∈ s.trace → link.device = d := by
  intro hall
  have hrun : (replay step firstSession misread).map recordings = some [("igrill-v202-b", "igrill-v202-a")] := by
    decide +kernel
  obtain ⟨s, hs, he⟩ := Option.map_eq_some_iff.mp hrun
  obtain ⟨link, registered, hm, hd⟩ := mem_recordings (s := s) (he ▸ List.mem_cons_self)
  have hown := hall s (.of_replay (.init firstSession_started) hs) _ link registered hm
  exact absurd (hd.symm.trans hown) (by decide)

end PitbluCore.Service
