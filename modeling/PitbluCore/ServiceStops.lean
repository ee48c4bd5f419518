import PitbluCore.ServiceShutdown

namespace PitbluCore

open Library Relation

def ClosePoint.awaited : ClosePoint → List TaskId
  | .stoppingDiscovery task => [task]
  | .stoppingOperations tasks | .stoppingRecoveries tasks | .stoppingPolling tasks | .stoppingRemaining tasks => tasks
  | .disconnecting => []

namespace Frame

def awaited : Frame → List TaskId
  | .procedure _ _ point => Service.Point.awaited point
  | .deletion _ point => point.awaited
  | .closing point => point.awaited
  | _ => []

def queues : Frame → Bool
  | .procedure _ _ .lockDisconnect | .procedure _ _ .lockConnect => true
  | .polling _ (.lock _) => true
  | .scan (.lock _) => true
  | .discovery .lock => true
  | .deletion _ (.lock _) => true
  | _ => false

def cancellable : Frame → Bool
  | .pollingFailed _ | .deletion _ _ | .closing _ => false
  | _ => true

def Stops : Frame → Frame → Prop
  | .procedure _ _ (.stoppingRecovery _), g | .deletion _ (.stoppingRecovery _), g
  | .closing (.stoppingRecoveries _), g => ∃ d, g.role.recovers d = true
  | .procedure _ _ (.stoppingPolling _), g | .deletion _ (.stoppingPolling _ _), g
  | .closing (.stoppingPolling _), g => ∃ d, g.role = .polling d ∨ g.role = .pollingFailed d
  | .closing (.stoppingDiscovery _), g => g.role = .discovery
  | .closing (.stoppingOperations _), g | .closing (.stoppingRemaining _), g => g.scheduled = true
  | _, _ => True

def Asked : Frame → Prop
  | .procedure call _ (.stoppingRecovery _) => call.recovering = false
  | _ => True

def depth : Frame → ℕ
  | .procedure _ _ (.stoppingRecovery _) | .deletion _ (.stoppingRecovery _) | .closing (.stoppingRecoveries _) => 2
  | .procedure _ _ (.stoppingPolling _) | .deletion _ (.stoppingPolling _ _) | .closing (.stoppingPolling _) => 1
  | .closing (.stoppingDiscovery _) => 1
  | .closing (.stoppingOperations _) | .closing (.stoppingRemaining _) => 3
  | _ => 0

theorem awaited_of_holdsLock {f : Frame} (h : f.holdsLock = true) : f.awaited = [] := by
  cases f with
  | procedure call row point => cases point <;> first | rfl | cases h
  | deletion d point => cases point <;> first | rfl | cases h
  | closing point => cases h
  | _ => rfl

theorem queues_of_holdsLock {f : Frame} (h : f.holdsLock = true) : f.queues = false := by
  cases f with
  | procedure call row point => cases point <;> first | rfl | cases h
  | polling d point => cases point <;> first | rfl | cases h
  | scan point => cases point <;> first | rfl | cases h
  | discovery point => cases point <;> first | rfl | cases h
  | deletion d point => cases point <;> first | rfl | cases h
  | _ => rfl

theorem depth_of_awaited {f : Frame} (h : f.awaited = []) (hc : f.role ≠ .closing) : f.depth = 0 := by
  cases f with
  | procedure call row point => cases point <;> first | rfl | cases h
  | deletion d point => cases point <;> first | rfl | cases h
  | closing point => exact absurd rfl hc
  | _ => rfl

theorem queues_awaited {f : Frame} (h : f.queues = true) : f.awaited = [] ∧ f.depth = 0 := by
  cases f with
  | procedure call row point => cases point <;> first | exact ⟨rfl, rfl⟩ | cases h
  | deletion d point => cases point <;> first | exact ⟨rfl, rfl⟩ | cases h
  | closing point => cases h
  | _ => exact ⟨rfl, rfl⟩

end Frame

namespace Control

variable {c c' : Control} {x : Option TaskId} {d t u : TaskId} {k : Task} {f : Frame}

def Halts (c : Control) (f : Frame) (u : TaskId) : Prop :=
  f.Asked ∧ u < c.nextTask ∧ ∀ k, c.tasks.get? u = some k → k.Stopped ∧ f.Stops k.frame

/-- The waits of a service with discovery task `d`, of which task `x` is in the middle of a segment. -/
structure Founded (c : Control) (x : Option TaskId) (d : TaskId) : Prop where
  holder : ∀ u, x ≠ some u → c.ioLock = some u → ∃ k, c.tasks.get? u = some k ∧ k.frame.holdsLock = true
  halted : ∀ t k, x ≠ some t → c.tasks.get? t = some k → ∀ u ∈ k.frame.awaited, c.Halts k.frame u
  obeys : ∀ t k, c.tasks.get? t = some k → k.cancelled = true → k.frame.cancellable = true
  discovery : ∀ k, c.tasks.get? d = some k → k.frame.role = .discovery
  begun : d < c.nextTask

theorem Halts.of_same (h : c.Halts f u) (ht : c'.tasks = c.tasks) (hn : c'.nextTask = c.nextTask) : c'.Halts f u :=
  ⟨h.1, hn ▸ h.2.1, fun k hk => h.2.2 k (ht ▸ hk)⟩

theorem Founded.of_same (h : c.Founded x d) (ht : c'.tasks = c.tasks) (hn : c'.nextTask = c.nextTask)
    (hl : ∀ u, x ≠ some u → c'.ioLock = some u → c.ioLock = some u) : c'.Founded x d where
  holder u hx hu := ht ▸ h.holder u hx (hl u hx hu)
  halted t k hx hk u hu := (h.halted t k hx (ht ▸ hk) u hu).of_same ht hn
  obeys t k hk := h.obeys t k (ht ▸ hk)
  discovery k hk := h.discovery k (ht ▸ hk)
  begun := hn ▸ h.begun

theorem Founded.begin (h : c.Founded none d) (t : TaskId) : c.Founded (some t) d where
  holder u _ hu := h.holder u (by simp) hu
  halted t k _ hk := h.halted t k (by simp) hk
  obeys := h.obeys
  discovery := h.discovery
  begun := h.begun

theorem Halts.spawn (h : c.Halts f u) (g : Frame) : (c.spawn g).Halts f u := by
  refine ⟨h.1, Nat.lt_succ_of_lt h.2.1, fun k hk => ?_⟩
  rcases get?_spawn hk with ⟨rfl, -⟩ | hk
  · exact absurd h.2.1 (lt_irrefl _)
  · exact h.2.2 k hk

theorem Founded.spawn (h : c.Founded x d) (hn : c.tasks.get? c.nextTask = none) (f : Frame)
    (hf : ∀ u ∈ f.awaited, c.Halts f u) : (c.spawn f).Founded x d where
  holder u hx hu := by
    obtain ⟨k, hk, hl⟩ := h.holder u hx hu
    have hne : u ≠ c.nextTask := by
      rintro rfl
      cases hn.symm.trans hk
    exact ⟨k, by simp [Control.spawn, hne, hk], hl⟩
  halted t k hx hk u hu := by
    rcases get?_spawn hk with ⟨-, rfl⟩ | hk
    · exact (hf u hu).spawn f
    · exact (h.halted t k hx hk u hu).spawn f
  obeys t k hk hc := by
    rcases get?_spawn hk with ⟨-, rfl⟩ | hk
    · cases hc
    · exact h.obeys t k hk hc
  discovery k hk := by
    rcases get?_spawn hk with ⟨hd, -⟩ | hk
    · exact absurd h.begun (hd ▸ lt_irrefl _)
    · exact h.discovery k hk
  begun := Nat.lt_succ_of_lt h.begun

theorem get?_cancel_cases {v : TaskId} (hk : (c.cancel u).tasks.get? v = some k) :
    ∃ old, c.tasks.get? v = some old ∧ (k = old ∨ k = old.cancel ∧ v = u) := by
  simp only [cancel, Dict.get?_modify] at hk
  split at hk
  · rename_i hv
    subst hv
    obtain ⟨old, hold, rfl⟩ := Option.map_eq_some_iff.mp hk
    exact ⟨old, hold, .inr ⟨rfl, rfl⟩⟩
  · exact ⟨k, hk, .inl rfl⟩

theorem Halts.cancel (h : c.Halts f u) (v : TaskId) : (c.cancel v).Halts f u := by
  refine ⟨h.1, h.2.1, fun k hk => ?_⟩
  obtain ⟨old, hold, rfl | ⟨rfl, -⟩⟩ := get?_cancel_cases hk
  · exact h.2.2 k hold
  · exact ⟨old.stopped_cancel, by rw [Task.cancel_frame]; exact (h.2.2 old hold).2⟩

theorem halts_cancel (ha : f.Asked) (hu : u < c.nextTask) (hs : ∀ k, c.tasks.get? u = some k → f.Stops k.frame) :
    (c.cancel u).Halts f u := by
  refine ⟨ha, hu, fun k hk => ?_⟩
  have hk' : (c.tasks.get? u).map Task.cancel = some k := by simpa [Control.cancel] using hk
  obtain ⟨old, hold, rfl⟩ := Option.map_eq_some_iff.mp hk'
  exact ⟨old.stopped_cancel, by rw [Task.cancel_frame]; exact hs old hold⟩

theorem Founded.cancel (h : c.Founded x d) (u : TaskId)
    (hu : ∀ k, c.tasks.get? u = some k → k.frame.cancellable = true ∨ ∃ e, k.frame = .pollingFailed e) :
    (c.cancel u).Founded x d where
  holder v hx hv := by
    obtain ⟨k, hk, hl⟩ := h.holder v hx hv
    obtain ⟨k', hk', hf⟩ := get?_cancel_of_some (u := u) hk
    exact ⟨k', hk', hf ▸ hl⟩
  halted t k hx hk v hv := by
    obtain ⟨old, hold, rfl | ⟨rfl, -⟩⟩ := get?_cancel_cases hk
    · exact (h.halted t k hx hold v hv).cancel u
    · rw [Task.cancel_frame] at hv ⊢
      exact (h.halted t old hx hold v hv).cancel u
  obeys t k hk hc := by
    obtain ⟨old, hold, rfl | ⟨rfl, rfl⟩⟩ := get?_cancel_cases hk
    · exact h.obeys t k hold hc
    · rcases hu old hold with ho | ⟨e, he⟩
      · rwa [Task.cancel_frame]
      · -- a poll that raised is done, so the cancellation does nothing
        have hsame : old.cancel = old := by simp [Task.cancel, he]
        rw [hsame] at hc ⊢
        exact h.obeys t old hold hc
  discovery k hk := by
    obtain ⟨old, hold, rfl | ⟨rfl, -⟩⟩ := get?_cancel_cases hk
    · exact h.discovery k hold
    · rw [Task.cancel_frame]
      exact h.discovery old hold
  begun := h.begun

end Control

namespace Service

variable {G : Guards} {s s' m : Service} {x : Option TaskId} {n : OperationId} {d t u : TaskId} {task : Task}

section Moves

theorem cancellable_of_recovers {f : Frame} {e : DeviceId} (h : f.role.recovers e = true) : f.cancellable = true := by
  cases f <;> first | rfl | cases h

theorem cancellable_of_polls {f : Frame} {e : DeviceId} (h : f.role = .polling e ∨ f.role = .pollingFailed e) :
    f.cancellable = true ∨ ∃ e, f = .pollingFailed e := by
  cases f with
  | pollingFailed e => exact .inr ⟨e, rfl⟩
  | deletion | closing => simp [Frame.role] at h
  | _ => exact .inl rfl

theorem cancellable_of_scheduled {f : Frame} (h : f.scheduled = true) : f.cancellable = true := by
  cases f <;> first | rfl | cases h

theorem cancellable_of_listed (h : s.control.Coherent x n) (hu : s.Listed u) :
    ∀ k, s.tasks.get? u = some k → k.frame.cancellable = true ∨ ∃ e, k.frame = .pollingFailed e := by
  intro k hk
  rcases hu with ⟨e, hu⟩ | ⟨e, hu⟩ | ⟨k', hk', hs⟩
  · obtain ⟨k', hk', hr, -⟩ := h.recoveries e u hu
    obtain rfl := Option.some.inj (hk.symm.trans hk')
    exact .inl (cancellable_of_recovers hr)
  · obtain ⟨k', hk', hp⟩ := h.pollingTasks e u hu
    obtain rfl := Option.some.inj (hk.symm.trans hk')
    exact cancellable_of_polls hp
  · obtain rfl := Option.some.inj (hk.symm.trans hk')
    exact .inl (cancellable_of_scheduled hs)

theorem founded_markOperation (h : s.control.Founded x d) (id : OperationId) (status : OperationStatus)
    (error : Option ErrorCode) (now : Time) : (s.markOperation id status error now).control.Founded x d := by
  unfold markOperation
  split
  · exact h
  · exact h.of_same rfl rfl (fun _ _ hu => hu)

theorem founded_scheduleEvent (hc : s.control.Coherent x n) (h : s.control.Founded x d) (id : OperationId) :
    (s.scheduleEvent id).control.Founded x d := by
  rcases scheduleEvent_eq (s := s) id with he | ⟨row, he⟩
  · rw [he]
    exact h
  · rw [he]
    exact h.spawn hc.absent (.event row) (by simp [Frame.awaited])

theorem founded_scheduleRecovery (hn : s.Fresh) (h : s.control.Founded x d) (e : DeviceId)
    (immediate : Bool) : (s.scheduleRecovery e immediate).control.Founded x d := by
  unfold scheduleRecovery
  split
  · exact h
  · have h' : ({ s with recoveries := s.recoveries.set e s.nextTask } : Service).control.Founded x d :=
      h.of_same rfl rfl (fun _ _ => id)
    exact h'.spawn (hn _ le_rfl) (.recovery e (.starting immediate)) (by simp [Frame.awaited])

theorem founded_stopRecovery (hc : s.control.Coherent x n) (h : s.control.Founded x d) {e : DeviceId}
    (hu : s.recoveries.get? e = some u) : (s.stopRecovery e u).control.Founded x d := by
  have h' : ({ s with recoveries := s.recoveries.erase e } : Service).control.Founded x d :=
    h.of_same rfl rfl (fun _ _ => id)
  exact h'.cancel u (cancellable_of_listed hc (.inl ⟨e, hu⟩))

theorem founded_stopPolling (hc : s.control.Coherent x n) (h : s.control.Founded x d) {e : DeviceId}
    (hu : s.pollingTasks.get? e = some u) : (s.stopPolling e u).control.Founded x d := by
  have h' : ({ s with pollingTasks := s.pollingTasks.erase e } : Service).control.Founded x d :=
    h.of_same rfl rfl (fun _ _ => id)
  exact h'.cancel u (cancellable_of_listed hc (.inr (.inl ⟨e, hu⟩)))

theorem founded_startPolling (hc : s.control.Coherent x n) (h : s.control.Founded x d) (e : DeviceId) :
    (s.startPolling e).control.Founded x d := by
  have hspawn : ∀ m : Service, m.control.Coherent x n → m.control.Founded x d →
      ({ m with pollingTasks := m.pollingTasks.set e m.nextTask }.spawn (.polling e .starting)).control.Founded
        x d := by
    intro m hc h
    have h' : ({ m with pollingTasks := m.pollingTasks.set e m.nextTask } : Service).control.Founded x d :=
      h.of_same rfl rfl (fun _ _ => id)
    exact h'.spawn hc.absent (.polling e .starting) (by simp [Frame.awaited])
  unfold startPolling
  dsimp only
  split
  · rename_i u hu
    exact hspawn _ (coherent_stopPolling hc hu) (founded_stopPolling hc h hu)
  · exact hspawn s hc h

theorem founded_move (hc : s.control.Coherent (some t) n) (h : s.control.Founded (some t) d)
    (hm : Move G t task n s s') : s'.control.Founded (some t) d := by
  cases hm with
  | quiet hq =>
    rw [hq.control]
    exact h
  | acquire => exact h.of_same rfl rfl (fun u hx hu => absurd hu hx)
  | release | releaseAdapter | removeConnected => exact h.of_same rfl rfl (fun u _ hu => (by cases hu))
  | mark _ status error now => exact founded_markOperation h _ status error now
  | event id => exact founded_scheduleEvent hc h id
  | scheduleRecovery e immediate => exact founded_scheduleRecovery hc.fresh h e immediate
  | stopRecovery hu => exact founded_stopRecovery hc h hu
  | stopPolling hu => exact founded_stopPolling hc h hu
  | startPolling => exact founded_startPolling hc h _
  | cancel hu => exact h.cancel _ (cancellable_of_listed hc hu)
  | _ => exact h.of_same rfl rfl (fun _ _ => id)

theorem founded_moves {m : Service} (hc : s.Coherent) (hk : s.tasks.get? t = some task)
    (h : s.control.Founded none d) (hm : ReflTransGen (Move G t task s.nextOperation) s m) :
    m.control.Founded (some t) d := by
  induction hm with
  | refl => exact h.begin t
  | tail hms hm ih => exact founded_move (coherent_moves hc hk hms).1 ih hm

end Moves

end Service

end PitbluCore
