import PitbluCore.ServiceSegments

namespace PitbluCore.Service

open Library Relation

variable {s : Service} {G : Guards} {t : TaskId} {task : Task} {n : OperationId}

section Polling

variable {d : DeviceId} {poll : PollState}

theorem Segment.observed {s s' : Service} (d : DeviceId) (state : ConnectionState) (now : Time)
    (h : Segment G t task n (s.observe d state now) s') : Segment G t task n s s' :=
  .setObserved d state (.telemetry _ (TelemetryState.connection_confined s.telemetry d state now) h)

theorem control_setObserved (d : DeviceId) (state : ConnectionState) : (s.setObserved d state).control = s.control :=
  control_updateDevice (fun _ => ⟨rfl, rfl⟩)

theorem control_observe (d : DeviceId) (state : ConnectionState) (now : Time) :
    (s.observe d state now).control = s.control := control_setObserved (s := s) d state

theorem segment_pollNext (hr : task.frame.role = .polling d) (hc : task.cancelled = false) :
    Segment G t task n s (s.pollNext t d poll) := by
  unfold pollNext
  split
  · exact .park (park_plain (.polling d (.sleeping poll)) (hr ▸ .same _) hc rfl rfl rfl trivial trivial trivial)
  · rename_i hd
    refine .park (.polling (.inl hr) (fun _ => ?_))
    rw [hr]
    exact .inr hd

theorem segment_pollEnd (hr : task.frame.role = .polling d) (hc : task.cancelled = false) (now clock : Time)
    (hg : s.givesUp poll.lastValid clock = true → s.control.Rearms G d) :
    Segment G t task n s (s.pollEnd t d poll now clock) := by
  unfold pollEnd
  split
  · rename_i hover
    refine .keep (s.noteError .deviceReadFailed) rfl rfl rfl (.observed d .backoff now ?_)
    refine .head (.scheduleRecovery d false (.inr (.inl (by simp [hr, Role.polls]))) hc ?_ (fun _ => ?_)) ?_
    · simp [hr]
    · rw [control_observe]
      exact hg hover
    refine .park (.polling (.inl hr) (fun _ => ?_))
    rw [hr]
    exact .inl (relieved_scheduleRecovery rfl false)
  · exact segment_pollNext hr hc

theorem segment_pollCounted (hr : task.frame.role = .polling d) (hc : task.cancelled = false) (now clock : Time)
    (hg : s.givesUp poll.lastValid clock = true → s.control.Rearms G d) :
    Segment G t task n s (s.pollCounted t d poll now clock) := by
  unfold pollCounted
  dsimp only
  split
  · exact segment_pollEnd hr hc now clock hg
  · split
    · refine .observed d .degraded now (segment_pollEnd hr hc now clock ?_)
      rw [control_observe]
      exact hg
    · exact segment_pollEnd hr hc now clock hg

theorem segment_pollFailed (hr : task.frame.role = .polling d) (hc : task.cancelled = false) (now clock : Time)
    (hg : s.givesUp poll.lastValid clock = true → s.control.Rearms G d) :
    Segment G t task n s (s.pollFailed t d poll now clock) := segment_pollCounted hr hc now clock hg

theorem segment_pollRead (hr : task.frame.role = .polling d) (hc : task.cancelled = false) {link : Link}
    (hf : task.frame.link = some link) (hl : s.ioLock = some t) (snapshot : DeviceSnapshot) (now clock : Time)
    (hg : s.givesUp (if (s.record d snapshot link now).advances poll snapshot now then clock else poll.lastValid)
      clock = true → s.control.Rearms G d) :
    Segment G t task n s (s.pollRead t d poll link snapshot now clock) := by
  refine .head (.release hl) ?_
  refine .head (.record d link snapshot now (.inr (by simp [hr, Role.polls])) hf hc) ?_
  have hadv : (s.record d snapshot link now).advances poll snapshot now =
      (s.release.record d snapshot link now).advances poll snapshot now := rfl
  rw [hadv] at hg
  unfold pollRead
  dsimp only
  split
  · rename_i h
    rw [if_pos h] at hg
    apply Segment.setObserved d .polling
    have hg' : ((s.release.record d snapshot link now).setObserved d .polling).givesUp clock clock = true →
        ((s.release.record d snapshot link now).setObserved d .polling).control.Rearms G d := by
      rw [control_setObserved]
      exact hg
    split
    · refine .keep (((s.release.record d snapshot link now).setObserved d .polling).resetBackoff d) rfl rfl rfl ?_
      exact segment_pollCounted hr hc now clock hg'
    · exact segment_pollCounted hr hc now clock hg'
  · rename_i h
    rw [if_neg h] at hg
    exact segment_pollFailed hr hc now clock hg

structure Rearmable (G : Guards) (d : DeviceId) (point : PollPoint) (outcome : Outcome) (now clock : Time)
    (s : Service) : Prop where
  lock : (∃ poll, point = .lock poll) → s.adapter.client = none → s.control.Rearms G d
  read : ∀ poll link snapshot, point = .reading poll link → outcome = .read snapshot →
    s.givesUp (if (s.record d snapshot link now).advances poll snapshot now then clock else poll.lastValid) clock =
      true → s.control.Rearms G d
  failed : ∀ poll link e, point = .reading poll link → outcome = .raised e → s.givesUp poll.lastValid clock = true →
    s.control.Rearms G d

theorem segment_resumePolling (R : Ready t task s) (hc : task.cancelled = false) {point : PollPoint}
    (hf : task.frame = .polling d point) {outcome : Outcome} {now clock : Time} {s' : Service}
    (hg : Rearmable G d point outcome now clock s)
    (h : s.resumePolling t d point outcome now clock = some s') : Segment G t task n s s' := by
  have hr : task.frame.role = .polling d := by rw [hf]; rfl
  unfold resumePolling at h
  split at h
  case h_1 =>
    cases h
    exact segment_pollNext hr hc
  case h_2 poll =>
    cases h
    split
    · exact .park (park_plain (.polling d (.lock poll)) (hr ▸ .same _) hc rfl rfl rfl trivial trivial trivial)
    · rename_i hd
      refine .park (.polling (.inl hr) (fun _ => ?_))
      rw [hr]
      exact .inr hd
  case h_3 poll =>
    split at h <;> cases h
    rename_i hl
    unfold pollLocked
    split
    · rename_i link hlink
      refine .head (.acquire (Option.isNone_iff_eq_none.mp hl)) ?_
      refine .park (.suspend (.polling d (.reading poll link))
        ⟨hr ▸ .same _, fun _ => rfl, ?_, ?_, trivial, trivial, ?_, ?_, fun _ h => by cases h⟩ hc)
      · intro h
        cases h
      · rintro l ⟨⟩
        exact hlink
      · rintro call row point ⟨⟩
      · rintro d' ⟨⟩
    · rename_i hnone
      exact segment_pollFailed hr hc now clock (fun _ => hg.lock ⟨poll, rfl⟩ hnone)
  case h_4 =>
    cases h
    exact segment_pollRead hr hc (by rw [hf]; rfl) (R.lock (by rw [hf]; rfl)) _ now clock (hg.read _ _ _ rfl rfl)
  case h_5 =>
    cases h
    refine .head (.release (R.lock (by rw [hf]; rfl))) (segment_pollFailed hr hc now clock ?_)
    exact hg.failed _ _ _ rfl rfl
  case h_6 =>
    cases h
    refine .head (.release (R.lock (by rw [hf]; rfl))) ?_
    exact .park (park_plain (.pollingFailed d) (hr ▸ .crash d) hc rfl rfl rfl trivial trivial trivial)
  case h_7 => cases h

theorem segment_interruptPolling (R : Ready t task s) (hc : task.cancelled = true) {point : PollPoint}
    (hf : task.frame = .polling d point) : Segment G t task n s (s.interruptPolling t d point) := by
  have hr : task.frame.role = .polling d := by rw [hf]; rfl
  unfold interruptPolling
  split
  · exact .head (.release (R.lock (by rw [hf]; rfl))) (.park (.polling (.inl hr) (by simp [hc])))
  · exact .park (.polling (.inl hr) (by simp [hc]))

theorem segment_pollCallback (hc : task.cancelled = false) (hr : task.frame.role = .pollingFailed d)
    (hg : s.control.Rearms G d) : Segment G t task n s (s.pollCallback t d) := by
  refine .keep (s.noteError .pollingTaskFailed) rfl rfl rfl ?_
  refine .head (.scheduleRecovery d false (.inr (.inr hr)) hc (by simp [hr]) (fun _ => hg)) ?_
  refine .park (.polling (.inr hr) (fun _ => ?_))
  rw [hr]
  exact relieved_scheduleRecovery rfl false

end Polling

theorem park_done {r : Role} (hr : task.frame.role = r) (hrec : ∀ d, r.recovers d = false)
    (hpoll : ∀ d, r ≠ .polling d ∧ r ≠ .pollingFailed d) (hcall : ∀ call, r ≠ .procedure call)
    (h : Released G s.control r) :
    Park G t task n s (s.endTask t) := by
  subst hr
  refine .done hrec hpoll (fun _ => h) (fun _ call hf => absurd ?_ (hcall call))
  rw [hf]
  rfl

section Scans

variable {id : OperationId}

theorem park_scan (hr : task.frame.role = .scan id) : Park G t task n s (s.endTask t) :=
  park_done hr (fun _ => rfl) (by simp) (by simp) trivial

theorem park_discovery (hr : task.frame.role = .discovery) : Park G t task n s (s.endTask t) :=
  park_done hr (fun _ => rfl) (by simp) (by simp) trivial

theorem segment_resumeScan (R : Ready t task s) (hc : task.cancelled = false) {point : ScanPoint}
    (hf : task.frame = .scan point) {outcome : Outcome} {now : Time} {s' : Service}
    (h : s.resumeScan t point outcome now = some s') : Segment G t task n s s' := by
  have hr : task.frame.role = .scan point.operation := by rw [hf]; rfl
  have hid : task.frame.role.operation = some point.operation := by rw [hr]; rfl
  have hp : s.control.Accounted (.scan point.operation) := hr ▸ R.pending
  unfold resumeScan at h
  split at h
  case h_1 operation =>
    cases h
    refine .head (.mark (.inl hid) .running none now hp (by simp) (by simp) (by simp [hc])) ?_
    exact .park (park_plain (.scan (.lock operation)) (hr ▸ .same _) hc rfl rfl rfl trivial
      (live_markRunning hp now) trivial)
  case h_2 operation =>
    split at h <;> cases h
    rename_i hl
    exact .head (.acquire (Option.isNone_iff_eq_none.mp hl))
      (.park (park_locked (.scan (.discovering operation)) (hr ▸ .same _) hc rfl rfl rfl trivial hp trivial))
  case h_3 operation results =>
    cases h
    refine .head (.release (R.lock (by rw [hf]; rfl))) (.head (.discover results) ?_)
    refine .keep { s.release.discover results with
      scanResults := trimResults (s.scanResults.set operation (s.adapter.candidates results)) } rfl rfl rfl ?_
    exact .finish operation (.inl hid) hc hp false now (.park (park_scan hr))
  case h_4 operation _ =>
    cases h
    exact .head (.release (R.lock (by rw [hf]; rfl)))
      (.finish operation (.inl hid) hc hp true now (.park (park_scan hr)))
  case h_5 => cases h

theorem segment_interruptScan (R : Ready t task s) {point : ScanPoint} (hf : task.frame = .scan point)
    (now : Time) : Segment G t task n s (s.interruptScan t point now) := by
  have hr : task.frame.role = .scan point.operation := by rw [hf]; rfl
  have hid : task.frame.role.operation = some point.operation := by rw [hr]; rfl
  have hp : s.control.Accounted (.scan point.operation) := hr ▸ R.pending
  cases point with
  | starting operation => exact .park (park_scan hr)
  | lock operation =>
    exact .head (.mark (.inl hid) .failed (some .interrupted) now hp (by simp) (by simp) (by simp [hf]))
      (.park (park_scan hr))
  | discovering operation =>
    refine .head (.release (R.lock (by rw [hf]; rfl))) ?_
    exact .head (.mark (.inl hid) .failed (some .interrupted) now hp (by simp) (by simp) (by simp [hf]))
      (.park (park_scan hr))

theorem segment_discoveryNext (hr : task.frame.role = .discovery) (hc : task.cancelled = false) :
    Segment G t task n s (s.discoveryNext t) := by
  unfold discoveryNext
  split
  · exact .park (park_discovery hr)
  · exact .park (park_plain (.discovery .sleeping) (hr ▸ .same _) hc rfl rfl rfl trivial trivial trivial)

theorem segment_resumeDiscovery (R : Ready t task s) (hc : task.cancelled = false) {point : DiscoveryPoint}
    (hf : task.frame = .discovery point) {outcome : Outcome} {s' : Service}
    (h : s.resumeDiscovery t point outcome = some s') : Segment G t task n s s' := by
  have hr : task.frame.role = .discovery := by rw [hf]; rfl
  unfold resumeDiscovery at h
  split at h
  case h_1 =>
    cases h
    exact segment_discoveryNext hr hc
  case h_2 =>
    cases h
    exact .park (park_plain (.discovery .lock) (hr ▸ .same _) hc rfl rfl rfl trivial trivial trivial)
  case h_3 =>
    split at h <;> cases h
    rename_i hl
    exact .head (.acquire (Option.isNone_iff_eq_none.mp hl))
      (.park (park_locked (.discovery .discovering) (hr ▸ .same _) hc rfl rfl rfl trivial trivial trivial))
  case h_4 results =>
    cases h
    refine .head (.release (R.lock (by rw [hf]; rfl))) ?_
    refine .head (.discover results) ?_
    exact .keep { s.release.discover results with discoveryError := false } rfl rfl rfl (segment_discoveryNext hr hc)
  case h_5 =>
    cases h
    refine .head (.release (R.lock (by rw [hf]; rfl))) ?_
    exact .keep { s.release with discoveryError := true } rfl rfl rfl (segment_discoveryNext hr hc)
  case h_6 => cases h

theorem segment_interruptDiscovery (R : Ready t task s) {point : DiscoveryPoint} (hf : task.frame = .discovery point) :
    Segment G t task n s (s.interruptDiscovery t point) := by
  have hr : task.frame.role = .discovery := by rw [hf]; rfl
  unfold interruptDiscovery
  split
  · rename_i hp
    subst hp
    exact .head (.release (R.lock (by rw [hf]; rfl))) (.park (park_discovery hr))
  · exact .park (park_discovery hr)

end Scans

section Background

theorem segment_event {row : OperationRow} (hf : task.frame = .event row) (now : Time) :
    Segment G t task n s ((s.publishOperation row now).endTask t) := by
  refine .telemetry _ ?_ (.park (park_done (r := .event) (by rw [hf]; rfl) (fun _ => rfl) (by simp) (by simp) trivial))
  exact .of_same rfl rfl rfl

theorem segment_registerHeartbeat {d : DeviceId} {desired : DesiredState}
    (hf : task.frame = .registerHeartbeat d desired) (now : Time) :
    Segment G t task n s ((s.registerHeartbeat d desired now).endTask t) := by
  have hr : task.frame.role = .registerHeartbeat d := by rw [hf]; rfl
  refine .touched _ ?_ (.park (park_done hr (fun _ => rfl) (by simp) (by simp) trivial))
  have h := TelemetryState.registerHeartbeat_confined s.telemetry d s.adapter.source now
  have htouch : ∀ d', d' = d → task.frame.role.touches d' = true := by
    rintro d' rfl
    simp [hr, Role.touches]
  have hreg := h.mono (E := fun d' => task.frame.role.touches d' = true ∨ s.telemetry.Known d')
    (fun d' hd => .inl (htouch d' hd))
  split
  · refine hreg.trans ((TelemetryState.heartbeatDisconnected_confined _ d now).mono (fun d' hd => ?_))
    exact (h.known hd).imp_left (htouch d')
  · exact hreg

end Background

section Deletion

variable {d : DeviceId}

theorem not_registered_removeDevice (d : DeviceId) (now : Time) : (s.removeDevice d now).control.desire d = none := by
  simp [control, removeDevice]

theorem park_deletion (hr : task.frame.role = .deletion d) (h : s.control.desire d = none) :
    Park G t task n s (s.endTask t) := park_done hr (fun _ => rfl) (by simp) (by simp) h

theorem segment_deleteRecoveryStopped (hr : task.frame.role = .deletion d) (hc : task.cancelled = false) (v : TaskId)
    (now : Time) (hg : s.connectedDevice ≠ some d → G.remove d s.control) :
    Segment G t task n s (s.deleteRecoveryStopped t d v now) := by
  unfold deleteRecoveryStopped
  split
  · unfold deletePolling
    split
    · rename_i u hu
      exact .head (.stopPolling hu (.inr (.inr hr)) hc)
        (.park (park_plain (.deletion d (.stoppingPolling [v] u)) (hr ▸ .same _) hc rfl rfl rfl
          trivial trivial trivial))
    · exact .park (park_plain (.deletion d (.lock [v])) (hr ▸ .same _) hc rfl rfl rfl trivial trivial trivial)
  · rename_i hd
    exact .head (.remove now hr hd (hg hd)) (.park (park_deletion hr (not_registered_removeDevice d now)))

theorem segment_resumeDeletion (R : Ready t task s) (hc : task.cancelled = false) {point : DeletePoint}
    (hf : task.frame = .deletion d point) {outcome : Outcome} {now : Time} {s' : Service}
    (hg : ((∃ u, point = .stoppingRecovery u) ∧ s.connectedDevice ≠ some d ∨ ∃ ts, point = .disconnecting ts) →
      G.remove d s.control)
    (hg' : ∀ ts, point = .disconnecting ts → G.clear d s.control)
    (h : s.resumeDeletion t d point outcome now = some s') : Segment G t task n s s' := by
  have hr : task.frame.role = .deletion d := by rw [hf]; rfl
  unfold resumeDeletion at h
  split at h
  case h_1 u =>
    split at h <;> cases h
    exact segment_deleteRecoveryStopped hr hc u now (fun hd => hg (.inl ⟨⟨u, rfl⟩, hd⟩))
  case h_2 =>
    split at h <;> cases h
    exact .park (park_plain (.deletion d (.lock _)) (hr ▸ .same _) hc rfl rfl rfl trivial trivial trivial)
  case h_3 =>
    split at h <;> cases h
    rename_i hl
    refine .head (.acquire (Option.isNone_iff_eq_none.mp hl)) (.head .unlink ?_)
    refine .park (.suspend (.deletion d (.disconnecting _))
      ⟨hr ▸ .same _, fun _ => rfl, fun _ => rfl, ?_, trivial, trivial, ?_, ?_, fun _ h => by cases h⟩ hc)
    · intro l hl
      cases hl
    · rintro call row point ⟨⟩
    · rintro d' ⟨⟩
  case h_4 =>
    cases h
    refine .head (.removeConnected now hr (R.cut (by rw [hf]; rfl)) (R.lock (by rw [hf]; rfl)) (hg (.inr ⟨_, rfl⟩))
      (hg' _ rfl)) ?_
    exact .park (park_deletion hr (not_registered_removeDevice d now))
  case h_5 => cases h

end Deletion

section Closing

theorem Listed.cancel {u : TaskId} (h : s.Listed u) (v : TaskId) : (s.cancel v).Listed u := by
  refine h.imp_right (Or.imp_right ?_)
  rintro ⟨task, hk, hs⟩
  by_cases hu : u = v
  · subst hu
    exact ⟨task.cancel, by simp [Service.cancel, hk], by rw [Task.cancel_frame]; exact hs⟩
  · exact ⟨task, by simp [Service.cancel, hu, hk], hs⟩

theorem Segment.cancelAll {s s' : Service} (hr : task.frame.role = .closing) {ts : List TaskId}
    (hts : ∀ u ∈ ts, s.Listed u) (h : Segment G t task n (s.cancelAll ts) s') : Segment G t task n s s' := by
  induction ts generalizing s with
  | nil => exact h
  | cons u ts ih =>
    refine .head (.cancel (hts u List.mem_cons_self) hr) (ih (fun v hv => ?_) h)
    exact (hts v (List.mem_cons_of_mem u hv)).cancel u

theorem listed_scheduledTasks {u : TaskId} (h : u ∈ s.scheduledTasks) : s.Listed u := by
  obtain ⟨⟨v, task⟩, he, rfl⟩ := List.mem_map.mp h
  obtain ⟨hm, hs⟩ := List.mem_filter.mp he
  exact .inr (.inr ⟨task, Dict.mem_entries_iff.mp hm, hs⟩)

theorem cancelAll_eq (ts : List TaskId) : ∃ tasks, s.cancelAll ts = { s with tasks := tasks } := by
  induction ts generalizing s with
  | nil => exact ⟨s.tasks, rfl⟩
  | cons u ts ih => exact ih (s := s.cancel u)

theorem cancelAll_recoveries (ts : List TaskId) (R : Dict DeviceId TaskId) :
    ({ s with recoveries := R } : Service).cancelAll ts = { s.cancelAll ts with recoveries := R } := by
  induction ts generalizing s with
  | nil => rfl
  | cons u ts ih => exact ih (s := s.cancel u)

theorem cancelAll_pollingTasks (ts : List TaskId) (P : Dict DeviceId TaskId) :
    ({ s with pollingTasks := P } : Service).cancelAll ts = { s.cancelAll ts with pollingTasks := P } := by
  induction ts generalizing s with
  | nil => rfl
  | cons u ts ih => exact ih (s := s.cancel u)

theorem stopped_cancelAll {ts : List TaskId} {u : TaskId} {k : Task}
    (hu : u ∈ ts ∨ ∀ old, s.tasks.get? u = some old → old.Stopped) (hk : (s.cancelAll ts).tasks.get? u = some k) :
    k.Stopped := by
  induction ts generalizing s with
  | nil => exact (hu.resolve_left (by simp)) k hk
  | cons v ts ih =>
    refine ih (s := s.cancel v) ?_ hk
    rcases hu with hu | hu
    · rcases List.mem_cons.mp hu with rfl | hu
      · right
        intro old hold
        simp only [Service.cancel, Dict.get?_modify, ↓reduceIte] at hold
        obtain ⟨k', -, rfl⟩ := Option.map_eq_some_iff.mp hold
        exact k'.stopped_cancel
      · exact .inl hu
    · right
      intro old hold
      simp only [Service.cancel, Dict.get?_modify] at hold
      split at hold
      · obtain ⟨k', -, rfl⟩ := Option.map_eq_some_iff.mp hold
        exact k'.stopped_cancel
      · exact hu old hold

variable (hr : task.frame.role = .closing) (hc : task.cancelled = false)

include hr hc

theorem park_closing (point : ClosePoint) : Park G t task n s (s.suspend t (.closing point)) :=
  park_plain (.closing point) (hr ▸ .same _) hc rfl rfl rfl trivial trivial trivial

theorem segment_closeAdapter (now : Time) : Segment G t task n s (s.closeAdapter t now) := by
  refine .head (.interruptOperations now hr) ?_
  unfold closeAdapter
  dsimp only
  split
  · exact .observed _ .disconnected now (.head .unlink (.park (park_closing hr hc _)))
  · exact .head .unlink (.park (park_closing hr hc _))

theorem segment_closeRemaining (now : Time) : Segment G t task n s (s.closeRemaining t now) := by
  unfold closeRemaining
  dsimp only
  split
  · exact segment_closeAdapter hr hc now
  · exact .cancelAll hr (fun u hu => listed_scheduledTasks hu) (.park (park_closing hr hc _))

theorem segment_closePolling (now : Time) : Segment G t task n s (s.closePolling t now) := by
  have hl : ∀ u ∈ s.pollingTasks.values, s.Listed u := fun u hu => .inr (.inl (Dict.mem_values_iff.mp hu))
  refine .cancelAll hr hl ?_
  refine .head (.clearPolling hr (fun d u k hu hk => stopped_cancelAll (.inl ?_) hk)) ?_
  · obtain ⟨tasks, he⟩ := cancelAll_eq (s := s) _
    rw [he] at hu
    exact Dict.mem_values_iff.mpr ⟨d, hu⟩
  rw [← cancelAll_pollingTasks]
  unfold closePolling
  dsimp only
  split
  · exact segment_closeRemaining hr hc now
  · exact .park (park_closing hr hc _)

theorem segment_closeRecoveries (now : Time) : Segment G t task n s (s.closeRecoveries t now) := by
  have hl : ∀ u ∈ s.recoveries.values, s.Listed u := fun u hu => .inl (Dict.mem_values_iff.mp hu)
  refine .cancelAll hr hl ?_
  refine .head (.clearRecoveries hr (fun d u k hu hk => stopped_cancelAll (.inl ?_) hk)) ?_
  · obtain ⟨tasks, he⟩ := cancelAll_eq (s := s) _
    rw [he] at hu
    exact Dict.mem_values_iff.mpr ⟨d, hu⟩
  rw [← cancelAll_recoveries]
  unfold closeRecoveries
  dsimp only
  split
  · exact segment_closePolling hr hc now
  · exact .park (park_closing hr hc _)

theorem segment_closeOperations (now : Time) : Segment G t task n s (s.closeOperations t now) := by
  unfold closeOperations
  dsimp only
  split
  · exact segment_closeRecoveries hr hc now
  · exact .cancelAll hr (fun u hu => listed_scheduledTasks hu) (.park (park_closing hr hc _))

theorem segment_resumeClosing {point : ClosePoint} (hf : task.frame = .closing point) {outcome : Outcome} {now : Time}
    {s' : Service}
    (h : s.resumeClosing t point outcome now = some s') : Segment G t task n s s' := by
  unfold resumeClosing at h
  split at h
  case h_1 =>
    split at h <;> cases h
    exact segment_closeOperations hr hc now
  case h_2 =>
    split at h <;> cases h
    exact segment_closeRecoveries hr hc now
  case h_3 =>
    split at h <;> cases h
    exact segment_closePolling hr hc now
  case h_4 =>
    split at h <;> cases h
    exact segment_closeRemaining hr hc now
  case h_5 =>
    split at h <;> cases h
    exact segment_closeAdapter hr hc now
  case h_6 =>
    cases h
    refine .quiet { s with telemetry := s.telemetry.close } ⟨rfl, rfl, .of_same rfl rfl rfl⟩ ?_
    refine .head (.shut hf) ?_
    exact .park (park_done hr (fun _ => rfl) (by simp) (by simp) trivial)
  case h_7 => cases h

end Closing

section Resume

variable {outcome : Outcome} {now clock : Time} {s' : Service} {frame : Frame}

theorem segment_advance (R : Ready t task s) (hc : task.cancelled = false) (hk : s.tasks.get? t = some task)
    (hG : G.Promised s (.resume t outcome now clock))
    (h : s.advance t task.frame outcome now clock = some s') : Segment G t task s.nextOperation s s' := by
  have hact : s.acting (.resume t outcome now clock) = some task.frame := by simp [acting, hk, hc]
  unfold advance at h
  split at h
  case h_1 call hf =>
    cases h
    have hr : task.frame.role = .procedure call := by rw [hf]; rfl
    have hp : s.control.Accounted (.procedure call) := hr ▸ R.pending
    refine segment_beginProcedure (.inl hr) hc ?_ hp R.fresh now ?_
    · intro hrec
      have hv : call.recovering = false := by simpa [Frame.Valid, hf] using R.valid
      simp [hv] at hrec
    · intro ha hrec hd hk
      exact hG.found _ (by simp [finds, hact, hf, ha, hd, hk, Dict.contains, hrec])
  case h_2 call row point hf =>
    refine segment_resumeProcedure R hc hf ⟨?_, ?_, ?_⟩ h
    · rintro rfl ha
      exact hG.release _ (by simp [releases, hact, hf, ha])
    · rintro ⟨u, rfl⟩ ha hd hk
      exact hG.found _ (by simp [finds, hact, hf, ha, hd, hk])
    · rintro ⟨link, rfl⟩ ⟨snapshot, rfl⟩ hrec
      exact hG.commit _ (by simp [commits, hact, hf, hrec])
  case h_3 d point hf =>
    cases h
    refine segment_resumeRecovery R hc hf ?_ now
    rintro rfl
    exact hG.wake d (by simp [wakes, hact, hf])
  case h_4 d point hf =>
    refine segment_resumePolling R hc hf ⟨?_, ?_, ?_⟩ h
    · rintro ⟨poll, rfl⟩ hnone hw hr
      refine hG.rearm d ?_
      simp [rearms, hact, hf, hnone, wanted_iff.mp hw]
      exact hr
    · rintro poll link snapshot rfl rfl hover hw hr
      refine hG.rearm d ?_
      simp [rearms, hact, hf, hover, wanted_iff.mp hw]
      exact hr
    · rintro poll link e rfl rfl hover hw hr
      refine hG.rearm d ?_
      simp [rearms, hact, hf, hover, wanted_iff.mp hw]
      exact hr
  case h_5 d hf =>
    cases h
    refine segment_pollCallback hc (by rw [hf]; rfl) (fun hw hr => hG.rearm d ?_)
    simp [rearms, hact, hf, wanted_iff.mp hw]
    exact hr
  case h_6 point hf => exact segment_resumeScan R hc hf h
  case h_7 point hf => exact segment_resumeDiscovery R hc hf h
  case h_8 row hf =>
    cases h
    exact segment_event hf now
  case h_9 d desired hf =>
    cases h
    exact segment_registerHeartbeat hf now
  case h_10 d point hf =>
    refine segment_resumeDeletion R hc hf ?_ ?_ h
    · rintro (⟨⟨u, rfl⟩, hd⟩ | ⟨ts, rfl⟩)
      · exact hG.remove d (by simp [removes, hact, hf, hd])
      · exact hG.remove d (by simp [removes, hact, hf])
    · rintro ts rfl
      exact hG.clear d (by simp [clears, hact, hf])
  case h_11 point hf => exact segment_resumeClosing (by rw [hf]; rfl) hc hf h
  case h_12 => cases h

theorem segment_interrupted (R : Ready t task s) (hc : task.cancelled = true)
    (h : s.interrupted t task.frame now = some s') : Segment G t task n s s' := by
  have hdone : ∀ {r : Role}, task.frame.role = r → (∀ d, r.recovers d = false) →
      (∀ d, r ≠ .polling d ∧ r ≠ .pollingFailed d) → Segment G t task n s (s.endTask t) := by
    rintro r rfl hrec hpoll
    exact .park (.done hrec hpoll (by simp [hc]) (by simp [hc]))
  unfold interrupted at h
  split at h
  case h_1 call hf =>
    cases h
    have hv : call.recovering = false := by simpa [Frame.Valid, hf] using R.valid
    exact hdone (r := .procedure call) (by rw [hf]; rfl) (by simp [Role.recovers, hv]) (by simp)
  case h_2 row hf =>
    cases h
    exact hdone (r := .event) (by rw [hf]; rfl) (fun _ => rfl) (by simp)
  case h_3 d desired hf =>
    cases h
    exact hdone (r := .registerHeartbeat d) (by rw [hf]; rfl) (fun _ => rfl) (by simp)
  case h_4 call row point hf => exact segment_interruptProcedure R hc hf h
  case h_5 d point hf =>
    cases h
    exact .park (.recovery (by rw [hf]; simp [Frame.role, Role.recovers]) (by simp [hc]))
  case h_6 d point hf =>
    cases h
    exact segment_interruptPolling R hc hf
  case h_7 point hf =>
    cases h
    exact segment_interruptScan R hf now
  case h_8 point hf =>
    cases h
    exact segment_interruptDiscovery R hf
  all_goals cases h

theorem segment_resume (hR : ∀ t task, s.tasks.get? t = some task → Ready t task s)
    (hG : G.Promised s (.resume t outcome now clock)) (h : s.resume t outcome now clock = some s') :
    ∃ task, s.tasks.get? t = some task ∧ Segment G t task s.nextOperation s s' := by
  unfold resume at h
  split at h
  · cases h
  · rename_i task hk
    split at h
    · rename_i hc
      exact ⟨task, hk, segment_interrupted (hR t task hk) hc h⟩
    · rename_i hc
      exact ⟨task, hk, segment_advance (hR t task hk) (by simpa using hc) hk hG h⟩

end Resume

section Requests

theorem request_view {d : DeviceId} (hd : (s.store.device d).isSome) : Request G s (s.viewDevice d) := by
  refine .quiet ⟨rfl, rfl, (TelemetryState.ensureHeartbeat_confined _ d _).mono ?_⟩
  rintro d' rfl
  exact .inl hd

theorem request_patch {d : DeviceId} {patch : DevicePatch} {s' : Service} (h : s.patchDevice d patch = .ok s')
    (hg : G.keep d (s'.control.desire d)) (hx : G.patch d patch s.tasks) : ReflTransGen (Request G) s s' := by
  unfold patchDevice at h
  split at h
  · cases h
  · split at h
    · cases h
    · rename_i candidate hsel hd
      cases h
      refine .head (.patch d patch candidate hg hsel hx) (.single (request_view ?_))
      have hd' : (s.store.device d).isSome := by simpa [Option.isSome_iff_ne_none] using hd
      simpa [updateDevice] using hd'

theorem request_register {id : DiscoveryId} {friendlyName : Option String} {automatic : Bool} {suffix : String}
    {now : Time} {r : Service × DeviceId} (h : s.register id friendlyName automatic suffix now = .ok r)
    (hg : ∀ d, G.keep d (r.1.control.desire d)) (hx : G.register r.2 s.tasks) : Request G s r.1 := by
  unfold register at h
  split at h
  · cases h
  · rename_i candidate hcandidate
    split at h
    · cases h
    · rename_i hnew
      dsimp only at h
      generalize (if _ = "" then _ else _ : String) = device at h
      split at h
      · cases h
      · rename_i hd
        cases h
        have hk := hg device
        simp only [control, spawn, viewDevice, AdministrativeStore.device_saveDevice, ↓reduceIte, Option.map_some] at hk
        refine .register ⟨device, id, candidate.name, friendlyName, candidate.model, automatic, .disconnected,
          .discovered,
          now, candidate.identity⟩ ?_ rfl hk ⟨candidate, hcandidate, rfl⟩ ?_ hx
        · simpa using hd
        · intro i hi other hother he
          have hi' : candidate.identity = some i := hi
          refine hnew ?_
          rw [hi', Option.isSome_some, Bool.true_and]
          exact List.any_eq_true.mpr ⟨other, hother, by simpa using he⟩

theorem request_startScan {now : Time} {r : Service × OperationRow} (h : s.startScan now = .ok r)
    (hg : s.store.recentOperations.find? (fun row => row.kind = .scan && row.status.pending) = none →
    G.scan s.store.operations) :
    ReflTransGen (Request G) s r.1 := by
  unfold startScan at h
  split at h
  · cases h
  · rename_i hclosing
    split at h
    · cases h
      exact .refl
    · rename_i hnone
      cases h
      exact .single (.startScan now (by simpa using hclosing) (hg hnone))

theorem request_connection {d : DeviceId} {action : ConnectionAction} {now : Time} {r : Service × OperationRow}
    (h : s.startConnectionOperation d action now = .ok r) : Request G s r.1 := by
  unfold startConnectionOperation at h
  split at h
  · cases h
  · rename_i hd
    split at h
    · cases h
    · rename_i hclosing
      split at h
      · rename_i row hp
        split at h
        · rename_i hk
          cases h
          exact .join hp hk
        · cases h
      · rename_i hp
        split at h
        · cases h
        · rename_i ho
          cases h
          refine .accept action now ?_ hp ?_ (by simpa using hclosing)
          · simpa [Option.isSome_iff_ne_none] using hd
          · by_cases ha : action = .disconnect
            · exact .inl ha
            · simp only [ha, ne_eq, not_false_eq_true, true_and, not_and, Classical.not_not] at ho
              exact .inr (or_iff_not_imp_left.mpr ho)

theorem request_delete {d : DeviceId} {now : Time} (hG : G.Promised s (.deleteDevice d now)) :
    ReflTransGen (Request G) s (s.deleteDevice d now).2 := by
  unfold deleteDevice
  split
  · exact .refl
  · rename_i hd
    have hd' : (s.store.device d).isSome := by simpa [Option.isSome_iff_ne_none] using hd
    refine .head (request_view hd') ?_
    dsimp only
    split
    · exact .refl
    · rename_i hp
      have hp' : s.pendingOperation d = none := by
        have hp'' : ¬ (s.pendingOperation d).isSome = true := hp
        simpa using hp''
      split
      · rename_i u hu
        exact .single (.deleteRecovering hp' hu)
      · rename_i hu
        split
        · unfold deletePolling
          split
          · rename_i u hu
            exact .single (.deletePolling hp' hu)
          · exact .single (.deleteConnected hp')
        · rename_i hcon
          have hu' : s.recoveries.get? d = none := hu
          have hcon' : ¬ s.connectedDevice = some d := hcon
          refine .single (.delete now hp' hu' hcon' (hG.remove d ?_))
          simp [removes, acting, hd', hp', hu', hcon', Dict.contains]

theorem request_startDevice {now : Time} {row : DeviceRow} (hd : (s.store.device row.deviceId).isSome)
    (ht : ∀ u task call, s.tasks.get? u = some task → task.frame.role ≠ .procedure call) :
    ReflTransGen (Request G) s (s.startDevice now row) := by
  have hquiet : Request G s ((s.registerHeartbeat row.deviceId row.desiredState now).setObserved row.deviceId
      .disconnected) := by
    refine .quiet ⟨?_, ?_, ?_⟩
    · exact control_updateDevice (s := s.registerHeartbeat row.deviceId row.desiredState now) (fun _ => ⟨rfl, rfl⟩)
    · exact registry_updateDevice (s := s.registerHeartbeat row.deviceId row.desiredState now) (fun _ => rfl)
    · have h := (TelemetryState.registerHeartbeat_confined s.telemetry row.deviceId s.adapter.source now)
      have hreg := h.mono (E := fun d => (s.store.device d).isSome = true ∨ s.telemetry.Known d)
        (by rintro d' rfl; exact .inl hd)
      change TelemetryState.Confined _ _ (if _ then _ else _)
      split
      · refine hreg.trans ((TelemetryState.heartbeatDisconnected_confined _ _ now).mono (fun d' hd' => ?_))
        refine (h.known hd').imp_left ?_
        rintro rfl
        exact hd
      · exact hreg
  refine .head hquiet ?_
  unfold startDevice
  dsimp only
  split
  · rename_i h
    simp only [Bool.and_eq_true, Option.isNone_iff_eq_none] at h
    exact .single (.adopt h.2 ht)
  · exact .refl

theorem device_startDevice {now : Time} {row : DeviceRow} {d : DeviceId} (h : (s.store.device d).isSome) :
    ((s.startDevice now row).store.device d).isSome := by
  have hset : ((s.setObserved row.deviceId .disconnected).store.device d).isSome := by
    simp only [setObserved, updateDevice, AdministrativeStore.device_updateDevice]
    split
    · rename_i he
      subst he
      simpa using h
    · exact h
  unfold startDevice scheduleRecovery
  dsimp only
  split
  · split <;> exact hset
  · exact hset

theorem not_procedure_startDevice {now : Time} {row : DeviceRow}
    (h : ∀ u task call, s.tasks.get? u = some task → task.frame.role ≠ .procedure call) (u : TaskId) (task : Task)
    (call : Call) (hk : (s.startDevice now row).tasks.get? u = some task) : task.frame.role ≠ .procedure call := by
  unfold startDevice scheduleRecovery at hk
  dsimp only at hk
  split at hk
  · split at hk
    · exact h u task call hk
    · have hk' : (s.tasks.set s.nextTask ⟨.recovery row.deviceId (.starting true), false⟩).get? u = some task := hk
      rw [Dict.get?_set] at hk'
      split at hk'
      · cases hk'
        rintro ⟨⟩
      · exact h u task call hk'
  · exact h u task call hk

theorem request_start (ht : s.tasks = Dict.empty) (now : Time) : ReflTransGen (Request G) (s.startDiscovery now)
    (s.start now) := by
  have hfold : ∀ (l : List DeviceRow) (m : Service), (∀ row ∈ l, (m.store.device row.deviceId).isSome) →
      (∀ u task call, m.tasks.get? u = some task → task.frame.role ≠ .procedure call) →
      ReflTransGen (Request G) m (l.foldl (fun s row => s.startDevice now row) m) := by
    intro l
    induction l with
    | nil => exact fun _ _ _ => .refl
    | cons row l ih =>
      intro m hm ht
      refine (request_startDevice (hm row List.mem_cons_self) ht).trans (ih _ (fun row' h' => ?_)
        (not_procedure_startDevice ht))
      exact device_startDevice (hm row' (List.mem_cons_of_mem row h'))
  refine hfold _ _ (fun row hrow => ?_) (fun u task call hk => ?_)
  · obtain ⟨r, hr, -⟩ := AdministrativeStore.device_of_mem_deviceRows _ hrow
    simp [hr]
  · have hk' : (s.tasks.set s.nextTask ⟨.discovery .starting, false⟩).get? u = some task := hk
    rw [ht, Dict.get?_set] at hk'
    split at hk'
    · cases hk'
      rintro ⟨⟩
    · cases hk'

end Requests

theorem proceeds_of_step {a : Action} {s' : Service} (hR : ∀ t task, s.tasks.get? t = some task → Ready t task s)
    (hG : G.Promised s a) (ha : ∀ now, a ≠ .restart now) (h : s.step a = some s') :
    (∃ t task outcome now clock, s.tasks.get? t = some task ∧ s.resume t outcome now clock = some s' ∧
      G.Promised s (.resume t outcome now clock) ∧ Segment G t task s.nextOperation s s') ∨
    ReflTransGen (Request G) s s' := by
  cases a with
  | startScan now =>
    cases h
    cases hs : s.startScan now with
    | error e => exact .inr .refl
    | ok r => exact .inr (request_startScan hs (hG.scan now rfl))
  | register id friendlyName automatic suffix now =>
    cases h
    cases hs : s.register id friendlyName automatic suffix now with
    | error e => exact .inr .refl
    | ok r =>
      refine .inr (.single (request_register hs (hG.keep _ (by simp only [step, hs]; rfl)) ?_))
      exact hG.register _ _ _ _ _ r rfl hs
  | patchDevice d patch =>
    cases h
    cases hs : s.patchDevice d patch with
    | error e => exact .inr .refl
    | ok r =>
      refine .inr (request_patch hs ?_ (hG.patch d patch r rfl hs))
      exact hG.keep _ (by simp only [step, hs, Except.toOption, Option.getD_some]) d
  | deleteDevice d now =>
    cases h
    exact .inr (request_delete hG)
  | startConnectionOperation d action now =>
    cases h
    cases hs : s.startConnectionOperation d action now with
    | error e => exact .inr .refl
    | ok r => exact .inr (.single (request_connection hs))
  | viewDevice d =>
    simp only [step] at h
    split at h <;> cases h
    · rename_i hd
      exact .inr (.single (request_view hd))
    · exact .inr .refl
  | close =>
    simp only [step] at h
    split at h <;> cases h
    rename_i hclosing
    exact .inr (.single (.close (Bool.eq_false_iff.mpr hclosing)))
  | restart now => exact absurd rfl (ha now)
  | resume t outcome now clock =>
    obtain ⟨task, hk, hseg⟩ := segment_resume hR hG h
    exact .inl ⟨t, task, outcome, now, clock, hk, h, hG, hseg⟩
  | linkLost =>
    cases h
    exact .inr (.single .unlink)
  | staleDeadline d now =>
    obtain ⟨T, hT, rfl⟩ := Option.map_eq_some_iff.mp h
    have hc := TelemetryState.staleDeadline_confined hT
    exact .inr (.single (.quiet ⟨rfl, rfl, hc.mono (fun _ hd => .inr hd)⟩))
  | heartbeatDeadline d now =>
    obtain ⟨T, hT, rfl⟩ := Option.map_eq_some_iff.mp h
    have hc := TelemetryState.heartbeatDeadline_confined hT
    exact .inr (.single (.quiet ⟨rfl, rfl, hc.mono (fun _ hd => .inr hd)⟩))

theorem evolves_of_step {a : Action} {s' : Service} (hR : ∀ t task, s.tasks.get? t = some task → Ready t task s)
    (hG : G.Promised s a) (h : s.step a = some s') : Evolves G s s' := by
  by_cases ha : ∃ now, a = .restart now
  · obtain ⟨now, rfl⟩ := ha
    cases h
    exact .restart now (request_start rfl now)
  · rcases proceeds_of_step hR hG (fun now hx => ha ⟨now, hx⟩) h with
      ⟨t, task, outcome, now, clock, hk, hs, hG, hseg⟩ | hr
    · exact .segment hk hs hG hseg
    · exact .request hr

end PitbluCore.Service
