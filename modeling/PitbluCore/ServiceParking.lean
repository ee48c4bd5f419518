import PitbluCore.ServiceStops

namespace PitbluCore.Service

open Library Relation

variable {s s' m : Service} {d t u : TaskId} {task : Task}

structure Parked (d t : TaskId) (s : Service) : Prop where
  discoveryTask : s.discoveryTask = d
  lock : s.ioLock = some t → ∃ k, s.tasks.get? t = some k ∧ k.frame.holdsLock = true
  halts : ∀ k, s.tasks.get? t = some k → ∀ u ∈ k.frame.awaited, s.control.Halts k.frame u

structure Apart (d t : TaskId) (s : Service) : Prop where
  discoveryTask : s.discoveryTask = d
  lock : s.ioLock ≠ some t

structure Held (d t : TaskId) (s : Service) : Prop where
  discoveryTask : s.discoveryTask = d
  present : ∃ k, s.tasks.get? t = some k

/-- The tables hold what they are for, and task `t` is in none that the roles it may have exclude. -/
structure Seated (t : TaskId) (s : Service) : Prop where
  fresh : ∀ u k, s.tasks.get? u = some k → u < s.nextTask
  recoveries : ∀ e u, s.recoveries.get? e = some u → ∃ k, s.tasks.get? u = some k ∧ k.frame.role.recovers e = true
  pollingTasks : ∀ e u, s.pollingTasks.get? e = some u →
    u ≠ t ∧ ∃ k, s.tasks.get? u = some k ∧ (k.frame.role = .polling e ∨ k.frame.role = .pollingFailed e)

structure Aside (s s' : Service) : Prop where
  ioLock : s'.ioLock = s.ioLock
  discoveryTask : s'.discoveryTask = s.discoveryTask

theorem Aside.refl : Aside s s := ⟨rfl, rfl⟩

theorem Aside.trans (h : Aside s m) (h' : Aside m s') : Aside s s' :=
  ⟨h'.ioLock.trans h.ioLock, h'.discoveryTask.trans h.discoveryTask⟩

theorem aside_markOperation (id : OperationId) (status : OperationStatus) (error : Option ErrorCode) (now : Time) :
    Aside s (s.markOperation id status error now) := by
  unfold markOperation
  split <;> exact ⟨rfl, rfl⟩

theorem aside_scheduleEvent (id : OperationId) : Aside s (s.scheduleEvent id) := by
  unfold scheduleEvent
  split <;> exact ⟨rfl, rfl⟩

theorem aside_finish (id : OperationId) (failed : Bool) (now : Time) : Aside s (s.finish id failed now) := by
  unfold finish
  split
  · exact (aside_markOperation id _ _ now).trans (aside_scheduleEvent id)
  · exact (aside_markOperation id _ _ now).trans (aside_scheduleEvent id)

theorem aside_scheduleRecovery (e : DeviceId) (immediate : Bool) : Aside s (s.scheduleRecovery e immediate) := by
  unfold scheduleRecovery
  split <;> exact ⟨rfl, rfl⟩

theorem aside_startPolling (e : DeviceId) : Aside s (s.startPolling e) := by
  unfold startPolling
  dsimp only
  split <;> exact ⟨rfl, rfl⟩

theorem Apart.aside (h : Apart d t s) (ha : Aside s s') : Apart d t s' :=
  ⟨ha.discoveryTask.trans h.discoveryTask, by rw [ha.ioLock]; exact h.lock⟩

theorem Held.release (h : Held d t s) : Apart d t s.release := ⟨h.discoveryTask, by simp [Service.release]⟩

theorem Apart.endTask (h : Apart d t s) : Parked d t (s.endTask t) where
  discoveryTask := h.discoveryTask
  lock hl := absurd hl h.lock
  halts _ hk := absurd rfl (get?_endTask hk).1

theorem Apart.endRecovery (h : Apart d t s) (e : DeviceId) : Parked d t (s.endRecovery t e) :=
  ⟨h.endTask.discoveryTask, h.endTask.lock, fun _ hk => absurd rfl (get?_endTask hk).1⟩

theorem Apart.endPolling (h : Apart d t s) (e : DeviceId) : Parked d t (s.endPolling t e) :=
  ⟨h.endTask.discoveryTask, h.endTask.lock, fun _ hk => absurd rfl (get?_endTask hk).1⟩

theorem frame_of_suspend {f : Frame} {k : Task} (hk : (s.suspend t f).tasks.get? t = some k) : k.frame = f := by
  rcases get?_suspend hk with ⟨-, old, -, rfl⟩ | ⟨hne, -⟩
  · rfl
  · exact absurd rfl hne

theorem Apart.suspend (h : Apart d t s) {f : Frame} (hf : f.awaited = []) : Parked d t (s.suspend t f) where
  discoveryTask := h.discoveryTask
  lock hl := absurd hl h.lock
  halts k hk u hu := by
    rw [frame_of_suspend hk, hf] at hu
    cases hu

theorem Held.suspend (h : Held d t s) {f : Frame} (hf : f.holdsLock = true) : Parked d t (s.suspend t f) where
  discoveryTask := h.discoveryTask
  lock _ := by
    obtain ⟨k, hk⟩ := h.present
    exact ⟨_, get?_suspend_self hk f, hf⟩
  halts k hk u hu := by
    rw [frame_of_suspend hk, Frame.awaited_of_holdsLock hf] at hu
    cases hu

section Procedures

variable {call : Call} {row : DeviceRow}

theorem parked_recoverNext (h : Apart d t s) (e : DeviceId) : Parked d t (s.recoverNext t e) := by
  unfold recoverNext
  split
  · have h' : Apart d t (s.nextDelay e) := ⟨h.discoveryTask, h.lock⟩
    exact h'.suspend rfl
  · exact h.endRecovery e

theorem parked_leave (h : Apart d t s) (succeeded : Bool) : Parked d t (s.leave t call succeeded) := by
  unfold leave
  split
  · exact h.endTask
  · split
    · exact h.endRecovery _
    · exact parked_recoverNext h _

theorem parked_complete (h : Apart d t s) (now : Time) : Parked d t (s.complete t call now) := by
  have h' := h.aside (aside_finish call.operation false now)
  exact parked_leave (s := (s.finish call.operation false now).log _) ⟨h'.discoveryTask, h'.lock⟩ true

theorem parked_fail (h : Apart d t s) (stage : PitbluCore.Stage) (e : Failure) (now : Time) :
    Parked d t (s.fail t call stage e now) := by
  unfold fail
  dsimp only
  refine parked_leave ?_ false
  have h' : ∀ observed : ConnectionState,
      Apart d t (((s.noteFailure stage e).setObserved call.device observed).finish call.operation true now) :=
    fun observed => Apart.aside (s := (s.noteFailure stage e).setObserved call.device observed)
      ⟨h.discoveryTask, h.lock⟩ (aside_finish _ true now)
  split
  · exact (h' _).aside (aside_scheduleRecovery _ false)
  · exact h' _

theorem Apart.setDesired (h : Apart d t s) (e : DeviceId) (desired : DesiredState) (observed : ConnectionState) :
    Apart d t (s.setDesired e desired observed) := ⟨h.discoveryTask, h.lock⟩

theorem parked_disconnectDevice (h : Apart d t s) (now : Time) : Parked d t (s.disconnectDevice t call now) := by
  refine parked_complete (Apart.setDesired ?_ _ _ _) now
  exact ⟨h.discoveryTask, h.lock⟩

theorem parked_pollingStopped (h : Apart d t s) (now : Time) : Parked d t (s.pollingStopped t call row now) := by
  unfold pollingStopped
  split
  · exact parked_disconnectDevice h now
  · exact h.suspend rfl

theorem parked_cancel (h : Apart d t s) (hu : u < s.nextTask) (hne : u ≠ t) {f : Frame} (hf : f.awaited = [u])
    (ha : f.Asked) (hg : ∀ k, s.tasks.get? u = some k → f.Stops k.frame) : Parked d t ((s.cancel u).suspend t f) where
  discoveryTask := h.discoveryTask
  lock hl := absurd hl h.lock
  halts k hk v hv := by
    rw [frame_of_suspend hk, hf] at hv
    rw [frame_of_suspend hk]
    obtain rfl := List.mem_singleton.mp hv
    have hc : (s.cancel v).control.Halts f v := Control.halts_cancel (c := s.control) ha hu hg
    exact ⟨hc.1, hc.2.1, fun k hk => hc.2.2 k ((get?_suspend_ne hne f).symm.trans hk)⟩

theorem parked_stopPolling (h : Apart d t s) (hs : Seated t s) {e : DeviceId} (hu : s.pollingTasks.get? e = some u)
    {f : Frame} (hf : f.awaited = [u]) (ha : f.Asked)
    (hg : ∀ g : Frame, g.role = .polling e ∨ g.role = .pollingFailed e → f.Stops g) :
    Parked d t ((s.stopPolling e u).suspend t f) := by
  obtain ⟨hne, k, hk, hr⟩ := hs.pollingTasks e u hu
  refine parked_cancel (s := { s with pollingTasks := s.pollingTasks.erase e }) ⟨h.discoveryTask, h.lock⟩
    (hs.fresh u k hk) hne hf ha (fun k' hk' => ?_)
  obtain rfl := Option.some.inj (hk.symm.trans hk')
  exact hg _ hr

theorem parked_stopRecovery (h : Apart d t s) (hs : Seated t s) {e : DeviceId} (hu : s.recoveries.get? e = some u)
    (hne : u ≠ t) {f : Frame} (hf : f.awaited = [u]) (ha : f.Asked)
    (hg : ∀ g : Frame, g.role.recovers e = true → f.Stops g) : Parked d t ((s.stopRecovery e u).suspend t f) := by
  obtain ⟨k, hk, hr⟩ := hs.recoveries e u hu
  refine parked_cancel (s := { s with recoveries := s.recoveries.erase e }) ⟨h.discoveryTask, h.lock⟩
    (hs.fresh u k hk) hne hf ha (fun k' hk' => ?_)
  obtain rfl := Option.some.inj (hk.symm.trans hk')
  exact hg _ hr

theorem parked_haltPolling (h : Apart d t s) (hs : Seated t s) (now : Time) :
    Parked d t (s.haltPolling t call row now) := by
  unfold haltPolling
  split
  · rename_i u hu
    exact parked_stopPolling h hs hu rfl trivial (fun g hg => ⟨call.device, hg⟩)
  · exact parked_pollingStopped h now

theorem parked_recoveryStopped (h : Apart d t s) (hs : Seated t s) (now : Time) :
    Parked d t (s.recoveryStopped t call row now) := by
  have h' : Apart d t (s.expectHeartbeat call.device now) := ⟨h.discoveryTask, h.lock⟩
  unfold recoveryStopped
  split
  · exact parked_haltPolling h hs now
  · split
    · exact parked_complete h now
    · exact h'.suspend rfl
  · exact parked_haltPolling h' ⟨hs.fresh, hs.recoveries, hs.pollingTasks⟩ now

theorem Seated.of_same (h : Seated t s) (ht : s'.tasks = s.tasks) (hn : s'.nextTask = s.nextTask)
    (hr : s'.recoveries = s.recoveries) (hp : s'.pollingTasks = s.pollingTasks) : Seated t s' := by
  refine ⟨?_, ?_, ?_⟩
  · rw [ht, hn]
    exact h.fresh
  · rw [ht, hr]
    exact h.recoveries
  · rw [ht, hp]
    exact h.pollingTasks

theorem seated_markRunning (h : Seated t s) (id : OperationId) (now : Time) : Seated t (s.markRunning id now) := by
  unfold markRunning markOperation
  split
  · exact h
  · exact h.of_same rfl rfl rfl rfl

theorem parked_beginProcedure (h : Apart d t s) (hs : Seated t s)
    (hne : call.recovering = false → ∀ e, s.recoveries.get? e ≠ some t) (now : Time) :
    Parked d t (s.beginProcedure t call now) := by
  have h' := h.aside (aside_markOperation call.operation .running none now)
  have hs' := seated_markRunning hs call.operation now
  have hrec : (s.markRunning call.operation now).recoveries = s.recoveries := by
    unfold markRunning markOperation
    split <;> rfl
  unfold beginProcedure
  dsimp only
  split
  · exact parked_leave (h'.aside (aside_finish _ true now)) false
  · split
    · rename_i u hu
      obtain ⟨hr, hu⟩ := Option.ite_none_left_eq_some.mp hu
      have hne' : u ≠ t := by
        rintro rfl
        exact hne (by simpa using hr) _ (hrec ▸ hu)
      exact parked_stopRecovery h' hs' hu hne' rfl (by simpa [Frame.Asked] using hr) (fun g hg => ⟨_, hg⟩)
    · exact parked_recoveryStopped h' hs' now

theorem parked_readInitial (h : Held d t s) (now : Time) : Parked d t (s.readInitial t call row now) := by
  unfold readInitial
  split
  · exact h.suspend rfl
  · exact parked_fail h.release _ _ now

theorem parked_connectTo (h : Held d t s) (candidate : DiscoveredDevice) (now : Time) :
    Parked d t (s.connectTo t call row candidate now) := by
  have h' : Held d t (s.logConnect call.device candidate) := ⟨h.discoveryTask, h.present⟩
  unfold connectTo
  dsimp only
  split
  · exact parked_readInitial h' now
  · split
    · exact h'.suspend rfl
    · exact parked_fail h'.release _ _ now

theorem parked_identityMissing (h : Held d t s) (now : Time) : Parked d t (s.identityMissing t call now) :=
  parked_fail h.release _ _ now

theorem parked_resolved (h : Held d t s) (candidate : DiscoveredDevice) (now : Time) :
    Parked d t (s.resolved t call row candidate now) :=
  parked_connectTo (s := s.updateDevice _ _) ⟨h.discoveryTask, h.present⟩ candidate now

theorem parked_lockConnect (h : Held d t s) (now : Time) : Parked d t (s.lockConnect t call row now) := by
  have h' : Held d t (s.acquire t) := ⟨h.discoveryTask, h.present⟩
  unfold lockConnect
  dsimp only
  split
  · exact parked_connectTo h' _ now
  · exact h'.suspend rfl

theorem parked_discovered (h : Held d t s) (results : List Advertisement) (now : Time) :
    Parked d t (s.discovered t call row results now) := by
  have h' : Held d t (s.discover results) := ⟨h.discoveryTask, h.present⟩
  unfold discovered
  dsimp only
  split
  · exact parked_identityMissing h' now
  · split
    · exact parked_resolved h' _ now
    · exact h'.suspend rfl

theorem parked_rediscovered (h : Held d t s) (results : List Advertisement) (now : Time) :
    Parked d t (s.rediscovered t call row results now) := by
  have h' : Held d t (s.discover results) := ⟨h.discoveryTask, h.present⟩
  unfold rediscovered
  dsimp only
  split
  · exact parked_resolved h' _ now
  · exact parked_identityMissing h' now

theorem parked_connected (h : Held d t s) (candidate : DiscoveredDevice) (now : Time) :
    Parked d t (s.connected t call row candidate now) := by
  refine Held.suspend (s := { s with adapter := _, telemetry := _ }) ?_ rfl
  exact ⟨h.discoveryTask, h.present⟩

theorem parked_disconnected (h : Held d t s) (now : Time) : Parked d t (s.disconnected t call row now) := by
  unfold disconnected
  split
  · exact parked_disconnectDevice (s := s.releaseAdapter _) ⟨h.discoveryTask, by simp [releaseAdapter]⟩ now
  · split
    · exact h.suspend rfl
    · exact h.release.suspend rfl

theorem parked_establish (h : Held d t s) (link : Link) (snapshot : DeviceSnapshot) (now : Time) :
    Parked d t ((s.establish call link snapshot now).complete t call now) := by
  have h' : Apart d t ((((s.release.record call.device snapshot link now).setConnected (some call.device)).clearFailure
      ).startPolling call.device) := by
    refine Apart.aside ?_ (aside_startPolling call.device)
    exact ⟨h.discoveryTask, h.release.lock⟩
  exact parked_complete (h'.setDesired _ _ _) now

/-- `hl`: the task has the lock where its await is inside it. -/
theorem parked_resumeProcedure {point : Point} {outcome : Outcome} {now : Time} (h : Held d t s) (hs : Seated t s)
    (hl : point.holdsLock = false → s.ioLock ≠ some t) (hr : s.resumeProcedure t call row point outcome now = some s') :
    Parked d t s' := by
  have hapart : point.holdsLock = false → Apart d t s := fun hp => ⟨h.discoveryTask, hl hp⟩
  unfold resumeProcedure at hr
  split at hr
  case h_1 =>
    split at hr <;> cases hr
    exact parked_recoveryStopped (hapart rfl) hs now
  case h_2 =>
    split at hr <;> cases hr
    exact parked_pollingStopped (hapart rfl) now
  case h_3 =>
    split at hr <;> cases hr
    exact Held.suspend (s := (s.acquire t).disconnectAdapter) ⟨h.discoveryTask, h.present⟩ rfl
  case h_4 =>
    cases hr
    exact parked_disconnected h now
  case h_5 =>
    cases hr
    exact h.release.suspend rfl
  case h_6 =>
    cases hr
    exact parked_fail h.release _ _ now
  case h_7 =>
    split at hr <;> cases hr
    exact parked_lockConnect h now
  case h_8 =>
    cases hr
    exact parked_discovered h _ now
  case h_9 =>
    cases hr
    exact parked_fail h.release _ _ now
  case h_10 =>
    cases hr
    split
    · exact h.suspend rfl
    · exact parked_identityMissing h now
  case h_11 =>
    cases hr
    exact parked_fail h.release _ _ now
  case h_12 =>
    cases hr
    exact parked_rediscovered h _ now
  case h_13 =>
    cases hr
    exact parked_fail h.release _ _ now
  case h_14 =>
    cases hr
    exact parked_connected h _ now
  case h_15 =>
    cases hr
    exact parked_fail h.release _ _ now
  case h_16 =>
    cases hr
    exact parked_establish h _ _ now
  case h_17 =>
    cases hr
    exact parked_fail h.release _ _ now
  case h_18 => cases hr

theorem parked_interruptProcedure {point : Point} {now : Time} (h : Held d t s)
    (hl : point.holdsLock = false → s.ioLock ≠ some t) (hr : s.interruptProcedure t call point now = some s') :
    Parked d t s' := by
  have h' : Apart d t ((if point.holdsLock then s.release else s).markInterrupted call.operation now) := by
    refine Apart.aside ?_ (aside_markOperation _ _ _ now)
    split
    · exact h.release
    · rename_i hp
      exact ⟨h.discoveryTask, hl (by simpa using hp)⟩
  unfold interruptProcedure at hr
  split at hr <;> cases hr
  split
  · exact h'.endRecovery _
  · exact h'.endTask

theorem parked_attempt (h : Apart d t s) (hs : Seated t s) (e : DeviceId) (now : Time) :
    Parked d t (s.attempt t e now) := by
  refine parked_beginProcedure (s := (s.logAttempt e).newOperation .reconnect (some e) now) ?_ ?_ (fun hr => ?_) now
  · exact ⟨h.discoveryTask, h.lock⟩
  · exact hs.of_same rfl rfl rfl rfl
  · cases hr

theorem parked_resumeRecovery (h : Apart d t s) (hs : Seated t s) (e : DeviceId) (point : RecoveryPoint) (now : Time) :
    Parked d t (s.resumeRecovery t e point now) := by
  unfold resumeRecovery
  split
  · split
    · exact parked_attempt h hs e now
    · exact parked_recoverNext h e
  · exact parked_attempt h hs e now

end Procedures

section Polling

variable {e : DeviceId}

theorem parked_pollNext (h : Apart d t s) (poll : PollState) : Parked d t (s.pollNext t e poll) := by
  unfold pollNext
  split
  · exact h.suspend rfl
  · exact h.endPolling e

theorem parked_pollEnd (h : Apart d t s) (poll : PollState) (now clock : Time) :
    Parked d t (s.pollEnd t e poll now clock) := by
  unfold pollEnd
  split
  · refine Apart.endPolling (Apart.aside ?_ (aside_scheduleRecovery e false)) e
    exact ⟨h.discoveryTask, h.lock⟩
  · exact parked_pollNext h poll

theorem parked_pollCounted (h : Apart d t s) (poll : PollState) (now clock : Time) :
    Parked d t (s.pollCounted t e poll now clock) := by
  unfold pollCounted
  split
  · exact parked_pollEnd h poll now clock
  · refine parked_pollEnd ?_ _ now clock
    split
    · exact ⟨h.discoveryTask, h.lock⟩
    · exact h

theorem parked_pollRead (h : Held d t s) (poll : PollState) (link : Link) (snapshot : DeviceSnapshot)
    (now clock : Time) : Parked d t (s.pollRead t e poll link snapshot now clock) := by
  have h' : Apart d t (s.release.record e snapshot link now) := ⟨h.discoveryTask, h.release.lock⟩
  unfold pollRead
  dsimp only
  split
  · refine parked_pollCounted ?_ _ now clock
    split <;> exact ⟨h'.discoveryTask, h'.lock⟩
  · exact parked_pollCounted h' _ now clock

theorem parked_resumePolling {point : PollPoint} {outcome : Outcome} {now clock : Time} (h : Held d t s)
    (hl : (Frame.polling e point).holdsLock = false → s.ioLock ≠ some t)
    (hr : s.resumePolling t e point outcome now clock = some s') : Parked d t s' := by
  have hapart : (Frame.polling e point).holdsLock = false → Apart d t s := fun hp => ⟨h.discoveryTask, hl hp⟩
  unfold resumePolling at hr
  split at hr
  case h_1 =>
    cases hr
    exact parked_pollNext (hapart rfl) _
  case h_2 =>
    cases hr
    split
    · exact (hapart rfl).suspend rfl
    · exact (hapart rfl).endPolling e
  case h_3 =>
    split at hr <;> cases hr
    unfold pollLocked
    split
    · exact Held.suspend (s := s.acquire t) ⟨h.discoveryTask, h.present⟩ rfl
    · exact parked_pollCounted (hapart rfl) _ now clock
  case h_4 =>
    cases hr
    exact parked_pollRead h _ _ _ now clock
  case h_5 =>
    cases hr
    exact parked_pollCounted h.release _ now clock
  case h_6 =>
    cases hr
    exact h.release.suspend rfl
  case h_7 => cases hr

theorem parked_interruptPolling {point : PollPoint} (h : Held d t s)
    (hl : (Frame.polling e point).holdsLock = false → s.ioLock ≠ some t) :
    Parked d t (s.interruptPolling t e point) := by
  unfold interruptPolling
  split
  · exact h.release.endPolling e
  · rename_i hp
    refine Apart.endPolling ⟨h.discoveryTask, hl ?_⟩ e
    cases point with
    | reading poll link => exact absurd rfl (hp poll link)
    | _ => rfl

theorem parked_pollCallback (h : Apart d t s) : Parked d t (s.pollCallback t e) := by
  refine Apart.endPolling (Apart.aside ?_ (aside_scheduleRecovery e false)) e
  exact ⟨h.discoveryTask, h.lock⟩

end Polling

section Scans

theorem parked_finish (h : Held d t s) (id : OperationId) (failed : Bool) (now : Time) :
    Parked d t ((s.release.finish id failed now).endTask t) := (h.release.aside (aside_finish id failed now)).endTask

theorem parked_resumeScan {point : ScanPoint} {outcome : Outcome} {now : Time} (h : Held d t s)
    (hl : (Frame.scan point).holdsLock = false → s.ioLock ≠ some t) (hr : s.resumeScan t point outcome now = some s') :
    Parked d t s' := by
  have hapart : (Frame.scan point).holdsLock = false → Apart d t s := fun hp => ⟨h.discoveryTask, hl hp⟩
  unfold resumeScan at hr
  split at hr
  case h_1 =>
    cases hr
    exact ((hapart rfl).aside (aside_markOperation _ .running none now)).suspend rfl
  case h_2 =>
    split at hr <;> cases hr
    exact Held.suspend (s := s.acquire t) ⟨h.discoveryTask, h.present⟩ rfl
  case h_3 operation results =>
    cases hr
    refine Apart.endTask (Apart.aside ?_ (aside_finish operation false now))
    exact ⟨h.discoveryTask, h.release.lock⟩
  case h_4 =>
    cases hr
    exact parked_finish h _ true now
  case h_5 => cases hr

theorem parked_interruptScan {point : ScanPoint} {now : Time} (h : Held d t s)
    (hl : (Frame.scan point).holdsLock = false → s.ioLock ≠ some t) : Parked d t (s.interruptScan t point now) := by
  cases point with
  | starting operation => exact Apart.endTask ⟨h.discoveryTask, hl rfl⟩
  | lock operation =>
    exact Apart.endTask (Apart.aside ⟨h.discoveryTask, hl rfl⟩ (aside_markOperation _ .failed (some .interrupted) now))
  | discovering operation =>
    exact Apart.endTask (h.release.aside (aside_markOperation _ .failed (some .interrupted) now))

theorem parked_discoveryNext (h : Apart d t s) : Parked d t (s.discoveryNext t) := by
  unfold discoveryNext
  split
  · exact h.endTask
  · exact h.suspend rfl

theorem parked_resumeDiscovery {point : DiscoveryPoint} {outcome : Outcome} (h : Held d t s)
    (hl : (Frame.discovery point).holdsLock = false → s.ioLock ≠ some t)
    (hr : s.resumeDiscovery t point outcome = some s') : Parked d t s' := by
  have hapart : (Frame.discovery point).holdsLock = false → Apart d t s := fun hp => ⟨h.discoveryTask, hl hp⟩
  unfold resumeDiscovery at hr
  split at hr
  case h_1 =>
    cases hr
    exact parked_discoveryNext (hapart rfl)
  case h_2 =>
    cases hr
    exact (hapart rfl).suspend rfl
  case h_3 =>
    split at hr <;> cases hr
    exact Held.suspend (s := s.acquire t) ⟨h.discoveryTask, h.present⟩ rfl
  case h_4 =>
    cases hr
    exact parked_discoveryNext ⟨h.discoveryTask, h.release.lock⟩
  case h_5 =>
    cases hr
    exact parked_discoveryNext ⟨h.discoveryTask, h.release.lock⟩
  case h_6 => cases hr

theorem parked_interruptDiscovery {point : DiscoveryPoint} (h : Held d t s)
    (hl : (Frame.discovery point).holdsLock = false → s.ioLock ≠ some t) :
    Parked d t (s.interruptDiscovery t point) := by
  unfold interruptDiscovery
  split
  · exact h.release.endTask
  · rename_i hp
    refine Apart.endTask ⟨h.discoveryTask, hl ?_⟩
    cases point <;> first | rfl | exact absurd rfl hp

end Scans

section Deletion

variable {e : DeviceId}

theorem parked_deleteRecoveryStopped (h : Apart d t s) (hs : Seated t s) (v : TaskId) (now : Time) :
    Parked d t (s.deleteRecoveryStopped t e v now) := by
  unfold deleteRecoveryStopped
  split
  · unfold deletePolling
    split
    · rename_i u hu
      exact parked_stopPolling h hs hu rfl trivial (fun g hg => ⟨e, hg⟩)
    · exact h.suspend rfl
  · exact Apart.endTask (s := s.removeDevice e now) ⟨h.discoveryTask, h.lock⟩

theorem parked_resumeDeletion {point : DeletePoint} {outcome : Outcome} {now : Time} (h : Held d t s)
    (hs : Seated t s) (hl : (Frame.deletion e point).holdsLock = false → s.ioLock ≠ some t)
    (hr : s.resumeDeletion t e point outcome now = some s') : Parked d t s' := by
  have hapart : (Frame.deletion e point).holdsLock = false → Apart d t s := fun hp => ⟨h.discoveryTask, hl hp⟩
  unfold resumeDeletion at hr
  split at hr
  case h_1 =>
    split at hr <;> cases hr
    exact parked_deleteRecoveryStopped (hapart rfl) hs _ now
  case h_2 =>
    split at hr <;> cases hr
    exact (hapart rfl).suspend rfl
  case h_3 =>
    split at hr <;> cases hr
    exact Held.suspend (s := (s.acquire t).disconnectAdapter) ⟨h.discoveryTask, h.present⟩ rfl
  case h_4 =>
    cases hr
    exact Apart.endTask (s := (s.release.setConnected none).removeDevice e now) ⟨h.discoveryTask, h.release.lock⟩
  case h_5 => cases hr

end Deletion

section Closing

theorem frame_cancelAll {ts : List TaskId} {k : Task} (hk : (s.cancelAll ts).tasks.get? u = some k) :
    ∃ old, s.tasks.get? u = some old ∧ k.frame = old.frame := by
  induction ts generalizing s with
  | nil => exact ⟨k, hk, rfl⟩
  | cons v ts ih =>
    obtain ⟨k', hk', hf⟩ := ih (s := s.cancel v) hk
    obtain ⟨old, hold, hf', -⟩ := Control.get?_cancel (c := s.control) hk'
    exact ⟨old, hold, hf.trans hf'⟩

theorem get?_cancelAll (ts : List TaskId) {k : Task} (hk : s.tasks.get? u = some k) :
    ∃ k', (s.cancelAll ts).tasks.get? u = some k' ∧ k'.frame = k.frame := by
  induction ts generalizing s k with
  | nil => exact ⟨k, hk, rfl⟩
  | cons v ts ih =>
    obtain ⟨k₁, hk₁, hf₁⟩ := Control.get?_cancel_of_some (c := s.control) (u := v) hk
    obtain ⟨k', hk', hf⟩ := ih (s := s.cancel v) hk₁
    exact ⟨k', hk', hf.trans hf₁⟩

structure Closer (d t : TaskId) (s : Service) : Prop extends Apart d t s, Seated t s where
  self : ∀ k, s.tasks.get? t = some k → k.frame.role = .closing

theorem Closer.cancelAll (h : Closer d t s) (ts : List TaskId) : Closer d t (s.cancelAll ts) := by
  have hget : ∀ u k, (s.cancelAll ts).tasks.get? u = some k → ∃ old, s.tasks.get? u = some old ∧ k.frame = old.frame :=
    fun _ _ => frame_cancelAll
  have hkeep : ∀ u k, s.tasks.get? u = some k → ∃ k', (s.cancelAll ts).tasks.get? u = some k' ∧ k'.frame = k.frame :=
    fun _ _ => get?_cancelAll ts
  obtain ⟨tasks, he⟩ := cancelAll_eq (s := s) ts
  rw [he] at hget hkeep ⊢
  refine ⟨⟨h.discoveryTask, h.lock⟩, ⟨fun u k hk => ?_, fun e u hu => ?_, fun e u hu => ?_⟩, fun k hk => ?_⟩
  · obtain ⟨old, hold, -⟩ := hget u k hk
    exact h.fresh u old hold
  · obtain ⟨k, hk, hr⟩ := h.recoveries e u hu
    obtain ⟨k', hk', hf⟩ := hkeep u k hk
    exact ⟨k', hk', hf ▸ hr⟩
  · obtain ⟨hne, k, hk, hr⟩ := h.pollingTasks e u hu
    obtain ⟨k', hk', hf⟩ := hkeep u k hk
    exact ⟨hne, k', hk', hf ▸ hr⟩
  · obtain ⟨old, hold, hf⟩ := hget t k hk
    rw [hf]
    exact h.self old hold

theorem Closer.suspend (h : Closer d t s) {ts : List TaskId} {point : ClosePoint} (hp : point.awaited = ts)
    (hts : ∀ u ∈ ts, ∃ k, s.tasks.get? u = some k ∧ (Frame.closing point).Stops k.frame ∧ k.frame.role ≠ .closing) :
    Parked d t ((s.cancelAll ts).suspend t (.closing point)) where
  discoveryTask := (h.cancelAll ts).discoveryTask
  lock hl := absurd hl (h.cancelAll ts).lock
  halts k hk u hu := by
    rw [frame_of_suspend hk] at hu ⊢
    have hu' : u ∈ ts := hp ▸ hu
    obtain ⟨old, hold, hstop, hne⟩ := hts u hu'
    have hut : u ≠ t := by
      rintro rfl
      exact hne (h.self old hold)
    obtain ⟨k', hk', -⟩ := get?_cancelAll ts hold
    refine ⟨trivial, (h.cancelAll ts).fresh u k' hk', fun k hk => ?_⟩
    have hk : (s.cancelAll ts).tasks.get? u = some k := (get?_suspend_ne hut _).symm.trans hk
    obtain ⟨old', hold', hf⟩ := frame_cancelAll hk
    obtain rfl := Option.some.inj (hold.symm.trans hold')
    exact ⟨stopped_cancelAll (.inl hu') hk, hf ▸ hstop⟩

theorem parked_closeAdapter (h : Closer d t s) (now : Time) : Parked d t (s.closeAdapter t now) := by
  unfold closeAdapter
  dsimp only
  refine Apart.suspend ?_ rfl
  split <;> exact ⟨h.discoveryTask, h.lock⟩

theorem scheduled_of_mem (hu : u ∈ s.scheduledTasks) : ∃ k, s.tasks.get? u = some k ∧ k.frame.scheduled = true := by
  obtain ⟨⟨v, k⟩, he, rfl⟩ := List.mem_map.mp hu
  obtain ⟨hm, hs⟩ := List.mem_filter.mp he
  exact ⟨k, Dict.mem_entries_iff.mp hm, hs⟩

theorem not_closing_of_scheduled {f : Frame} (h : f.scheduled = true) : f.role ≠ .closing := by
  cases f with
  | closing => cases h
  | _ =>
    intro hf
    cases hf

theorem parked_closeRemaining (h : Closer d t s) (now : Time) : Parked d t (s.closeRemaining t now) := by
  unfold closeRemaining
  dsimp only
  split
  · exact parked_closeAdapter h now
  · refine h.suspend rfl (fun u hu => ?_)
    obtain ⟨k, hk, hs⟩ := scheduled_of_mem hu
    exact ⟨k, hk, hs, not_closing_of_scheduled hs⟩

theorem parked_closePolling (h : Closer d t s) (now : Time) : Parked d t (s.closePolling t now) := by
  have h' : Closer d t { s with pollingTasks := Dict.empty } :=
    ⟨⟨h.discoveryTask, h.lock⟩, ⟨h.fresh, h.recoveries, fun e u hu => (by cases hu)⟩, h.self⟩
  unfold closePolling
  dsimp only
  split
  · exact parked_closeRemaining (h'.cancelAll _) now
  · refine h'.suspend rfl (fun u hu => ?_)
    obtain ⟨e, hu⟩ := Dict.mem_values_iff.mp hu
    obtain ⟨-, k, hk, hr⟩ := h.pollingTasks e u hu
    exact ⟨k, hk, ⟨e, hr⟩, by rcases hr with hr | hr <;> simp [hr]⟩

theorem parked_closeRecoveries (h : Closer d t s) (now : Time) : Parked d t (s.closeRecoveries t now) := by
  have h' : Closer d t { s with recoveries := Dict.empty } :=
    ⟨⟨h.discoveryTask, h.lock⟩, ⟨h.fresh, fun e u hu => (by cases hu), h.pollingTasks⟩, h.self⟩
  unfold closeRecoveries
  dsimp only
  split
  · exact parked_closePolling (h'.cancelAll _) now
  · refine h'.suspend rfl (fun u hu => ?_)
    obtain ⟨e, hu⟩ := Dict.mem_values_iff.mp hu
    obtain ⟨k, hk, hr⟩ := h.recoveries e u hu
    exact ⟨k, hk, ⟨e, hr⟩, fun hf => by simp [hf, Role.recovers] at hr⟩

theorem parked_closeOperations (h : Closer d t s) (now : Time) : Parked d t (s.closeOperations t now) := by
  unfold closeOperations
  dsimp only
  split
  · exact parked_closeRecoveries h now
  · refine h.suspend rfl (fun u hu => ?_)
    obtain ⟨k, hk, hs⟩ := scheduled_of_mem hu
    exact ⟨k, hk, hs, not_closing_of_scheduled hs⟩

theorem parked_resumeClosing {point : ClosePoint} {outcome : Outcome} {now : Time} (h : Closer d t s)
    (hr : s.resumeClosing t point outcome now = some s') : Parked d t s' := by
  unfold resumeClosing at hr
  split at hr
  case h_1 =>
    split at hr <;> cases hr
    exact parked_closeOperations h now
  case h_2 =>
    split at hr <;> cases hr
    exact parked_closeRecoveries h now
  case h_3 =>
    split at hr <;> cases hr
    exact parked_closePolling h now
  case h_4 =>
    split at hr <;> cases hr
    exact parked_closeRemaining h now
  case h_5 =>
    split at hr <;> cases hr
    exact parked_closeAdapter h now
  case h_6 =>
    cases hr
    exact Apart.endTask ⟨h.discoveryTask, h.lock⟩
  case h_7 => cases hr

end Closing

theorem seated_of_coherent (h : s.Coherent) (hp : ∀ e, s.pollingTasks.get? e ≠ some t) : Seated t s where
  fresh u k hk := by
    by_contra hu
    cases (h.fresh u (not_lt.mp hu)).symm.trans hk
  recoveries e u hu := by
    obtain ⟨k, hk, hr, -⟩ := h.recoveries e u hu
    exact ⟨k, hk, hr⟩
  pollingTasks e u hu := ⟨fun he => hp e (he ▸ hu), h.pollingTasks e u hu⟩

theorem parked_resume (hc : s.Coherent) (h : s.control.Founded none s.discoveryTask)
    (hk : s.tasks.get? t = some task) {outcome : Outcome} {now clock : Time}
    (hr : s.resume t outcome now clock = some s') : Parked s.discoveryTask t s' := by
  have hheld : Held s.discoveryTask t s := ⟨rfl, task, hk⟩
  have hlock : ∀ f, task.frame = f → f.holdsLock = false → s.ioLock ≠ some t := by
    rintro f rfl hf hl
    obtain ⟨k, hk', hx⟩ := h.holder t (by simp) hl
    obtain rfl := Option.some.inj (hk.symm.trans hk')
    cases hf.symm.trans hx
  have hapart : ∀ f, task.frame = f → f.holdsLock = false → Apart s.discoveryTask t s :=
    fun f hf hl => ⟨rfl, hlock f hf hl⟩
  have hseated : (∀ e, task.frame.role ≠ .polling e ∧ task.frame.role ≠ .pollingFailed e) → Seated t s := by
    refine fun hr => seated_of_coherent hc (fun e hu => ?_)
    obtain ⟨k, hk', hp⟩ := hc.pollingTasks e t hu
    obtain rfl := Option.some.inj (hk.symm.trans hk')
    exact hp.elim (hr e).1 (hr e).2
  have hrec : ∀ e, task.frame.role.recovers e = false → s.recoveries.get? e ≠ some t := by
    intro e hr hu
    obtain ⟨k, hk', hx, -⟩ := hc.recoveries e t hu
    obtain rfl := Option.some.inj (hk.symm.trans hk')
    cases hr.symm.trans hx
  have hvalid := (hc.tasks t task hk).valid
  unfold resume at hr
  rw [hk] at hr
  dsimp only at hr
  split at hr
  · unfold interrupted at hr
    split at hr
    case h_1 | h_2 | h_3 =>
      rename_i hf
      cases hr
      exact (hapart _ hf rfl).endTask
    case h_4 call row point hf => exact parked_interruptProcedure hheld (hlock _ hf) hr
    case h_5 hf =>
      cases hr
      exact (hapart _ hf rfl).endRecovery _
    case h_6 hf =>
      cases hr
      exact parked_interruptPolling hheld (hlock _ hf)
    case h_7 hf =>
      cases hr
      exact parked_interruptScan hheld (hlock _ hf)
    case h_8 hf =>
      cases hr
      exact parked_interruptDiscovery hheld (hlock _ hf)
    all_goals cases hr
  · unfold advance at hr
    split at hr
    case h_1 call hf =>
      cases hr
      refine parked_beginProcedure (hapart _ hf rfl) (hseated (by simp [hf, Frame.role])) (fun hcall e => ?_) now
      exact hrec e (by simp [hf, Frame.role, Role.recovers, hcall])
    case h_2 hf =>
      exact parked_resumeProcedure hheld (hseated (by simp [hf, Frame.role])) (hlock _ hf) hr
    case h_3 hf =>
      cases hr
      exact parked_resumeRecovery (hapart _ hf rfl) (hseated (by simp [hf, Frame.role])) _ _ now
    case h_4 hf => exact parked_resumePolling hheld (hlock _ hf) hr
    case h_5 hf =>
      cases hr
      exact parked_pollCallback (hapart _ hf rfl)
    case h_6 hf => exact parked_resumeScan hheld (hlock _ hf) hr
    case h_7 hf => exact parked_resumeDiscovery hheld (hlock _ hf) hr
    case h_8 row hf =>
      cases hr
      exact Apart.endTask (s := s.publishOperation row now) ⟨rfl, hlock _ hf rfl⟩
    case h_9 e desired hf =>
      cases hr
      exact Apart.endTask (s := s.registerHeartbeat e desired now) ⟨rfl, hlock _ hf rfl⟩
    case h_10 hf => exact parked_resumeDeletion hheld (hseated (by simp [hf, Frame.role])) (hlock _ hf) hr
    case h_11 point _ hf =>
      refine parked_resumeClosing ⟨hapart _ hf rfl, hseated (by simp [hf, Frame.role]), fun k hk' => ?_⟩ hr
      obtain rfl := Option.some.inj (hk.symm.trans hk')
      rw [hf]
      rfl
    case h_12 => cases hr

end PitbluCore.Service
