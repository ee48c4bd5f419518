import PitbluCore.ServiceMirror

namespace PitbluCore

open Library

namespace Service

variable (s : Service)

def refuses (candidate : DiscoveredDevice) : Bool := !s.adapter.isConnected && !s.adapter.current candidate

def attemptFails (call : Call) (row : DeviceRow) (point : Point) (outcome : Outcome) : Bool :=
  match point, outcome with
  | _, .raised _ => true
  | .lockConnect, .resumed =>
    !(call.action = .reconnect && row.identity.isSome) && (s.candidates.get? row.discoveryId).any s.refuses
  | .discovering, .found _ => row.identity.isNone
  | .releasingMissing, .released released => !released
  | .rediscovering, .found results => ((s.adapter.candidates results).find? (fun c => c.identity = row.identity)).isNone
  | _, _ => false

def stores (a : Action) : Option (DeviceId × ConnectionState) :=
  match s.acting a, a with
  | some (.procedure call _ (.reading _)), .resume _ (.read snapshot) _ _ =>
    if s.telemetry.newer call.device snapshot then none else some (call.device, .polling)
  | some (.procedure call row point), .resume _ outcome _ _ =>
    if s.attemptFails call row point outcome then some (call.device, call.action.failed) else none
  | some (.polling device (.reading poll _)), .resume _ (.read snapshot) now clock =>
    if s.advances poll snapshot now && !s.telemetry.newer device snapshot && !s.givesUp clock clock then
      some (device, .polling)
    else none
  | _, _ => none

def shows (a : Action) : Option (DeviceId × ConnectionState) :=
  match s.acting a, a with
  | some (.polling device (.reading poll _)), .resume _ (.read snapshot) now clock =>
    if !s.advances poll snapshot now && s.telemetry.newer device snapshot &&
        !decide (s.settings.degradedAfter ≤ poll.failures + 1) && !s.givesUp poll.lastValid clock then
      some (device, .polling)
    else none
  | _, _ => none

def quiescent (device : DeviceId) : Bool := s.tasks.entries.all (fun e =>
  match e.2.frame with
  | .procedure call _ _ => call.device ≠ device
  | .polling _ (.sleeping _) => true
  | .polling d _ => d ≠ device
  | _ => true)

end Service

/-- A run, with the number of connection events of this session that each device had when it was registered. -/
structure MirrorRun where
  service : Service
  marks : DeviceId → ℕ

namespace MirrorRun

variable (r : MirrorRun)

def shown (device : DeviceId) : Option EventData := (r.service.mirror device).shown (r.marks device)

def Agrees (device : DeviceId) : Prop := (r.service.mirror device).Agrees (r.marks device)

def step (a : Service.Action) : Option MirrorRun := (r.service.step a).map fun s =>
  ⟨s, match a with
    | .restart _ => fun _ => 0
    | _ => fun device =>
      if (r.service.store.device device).isNone && (s.store.device device).isSome then
        (s.telemetry.connections device).length
      else r.marks device⟩

def Initial (r : MirrorRun) : Prop := Service.Started r.service ∧ r.marks = fun _ => 0

/-- What the step stores without an event is what is shown, and what it shows without storing it is stored. -/
def Pairs (r : MirrorRun) (a : Service.Action) : Prop :=
  (∀ p ∈ r.service.stores a, (r.service.mirror p.1).Shows (r.marks p.1) p.2) ∧
    ∀ p ∈ r.service.shows a, (r.service.mirror p.1).Keeps p.2

instance (r : MirrorRun) (a : Service.Action) : Decidable (r.Pairs a) :=
  inferInstanceAs (Decidable ((∀ p ∈ r.service.stores a, (r.service.mirror p.1).stored.isSome →
      ∀ data ∈ (r.service.mirror p.1).shown (r.marks p.1), data = connectionData p.2) ∧
    ∀ p ∈ r.service.shows a, ∀ stored ∈ (r.service.mirror p.1).stored, stored = p.2))

end MirrorRun

namespace Service

variable {s s' : Service} {t : TaskId} {call : Call} {row : DeviceRow} {marks : DeviceId → ℕ} {now clock : Time}

def Reflected (marks : DeviceId → ℕ) (s : Service) : Prop := ∀ d, (s.mirror d).Holds (marks d)

theorem Reflected.same (h : s.Reflected marks) (he : s'.mirror = s.mirror) : s'.Reflected marks := by
  intro d
  rw [he]
  exact h d

theorem Reflected.update (h : s.Reflected marks) {d : DeviceId} {m : Mirror} (hm : m.Holds (marks d))
    (he : s'.mirror = Function.update s.mirror d m) : s'.Reflected marks := by
  intro d'
  rw [he]
  by_cases hd : d' = d
  · rw [hd, Function.update_self]
    exact hm
  · rw [Function.update_of_ne hd]
    exact h d'

theorem Reflected.observe (h : s.Reflected marks) (d : DeviceId) (state : ConnectionState) (now : Time) :
    (s.observe d state now).Reflected marks := h.update (h d).observe (mirror_observe s d state)

theorem Reflected.removeDevice (h : s.Reflected marks) (d : DeviceId) (now : Time) :
    (s.removeDevice d now).Reflected marks := by
  obtain ⟨m, hm, he⟩ := mirror_removeDevice s d now
  exact h.update (.of_stored hm) he

section Procedures

def MayFail (marks : DeviceId → ℕ) (call : Call) (s : Service) : Prop :=
  (s.mirror call.device).Shows (marks call.device) call.action.failed

theorem Reflected.fail (h : s.Reflected marks) (hf : s.MayFail marks call) (stage : Stage) (e : Failure) (now : Time) :
    (s.fail t call stage e now).Reflected marks := h.update ((h call.device).store hf) (mirror_fail s stage e)

theorem Reflected.release (h : s.Reflected marks) : s.release.Reflected marks := h

theorem Reflected.disconnectDevice (h : s.Reflected marks) (now : Time) :
    (s.disconnectDevice t call now).Reflected marks :=
  h.update (h call.device).observe (mirror_disconnectDevice s)

theorem Reflected.pollingStopped (h : s.Reflected marks) (row : DeviceRow) (now : Time) :
    (s.pollingStopped t call row now).Reflected marks := by
  unfold Service.pollingStopped
  split
  · exact h.disconnectDevice now
  · exact h.same (mirror_await s .lockDisconnect)

theorem Reflected.haltPolling (h : s.Reflected marks) (row : DeviceRow) (now : Time) :
    (s.haltPolling t call row now).Reflected marks := by
  unfold Service.haltPolling
  split
  · exact h
  · exact h.pollingStopped row now

theorem Reflected.recoveryStopped (h : s.Reflected marks) (row : DeviceRow) (now : Time) :
    (s.recoveryStopped t call row now).Reflected marks := by
  have he := h.same (mirror_expectHeartbeat s call.device now)
  unfold Service.recoveryStopped
  split
  · exact h.haltPolling row now
  · split
    · exact h.same (mirror_complete s)
    · exact he
  · exact he.haltPolling row now

theorem Reflected.beginProcedure (h : s.Reflected marks) (call : Call) (now : Time) :
    (s.beginProcedure t call now).Reflected marks := by
  have hm := h.same (mirror_markRunning s call.operation now)
  unfold Service.beginProcedure
  dsimp only
  split
  · refine hm.same ?_
    rw [mirror_leave, mirror_finish]
  · split
    · exact hm
    · exact hm.recoveryStopped _ now

theorem Reflected.disconnected (h : s.Reflected marks) (row : DeviceRow) (now : Time) :
    (s.disconnected t call row now).Reflected marks := by
  unfold Service.disconnected
  split
  · exact (h.same (mirror_releaseAdapter s row.discoveryId)).disconnectDevice now
  · split <;> exact h

theorem Reflected.connectTo (h : s.Reflected marks) {candidate : DiscoveredDevice} (row : DeviceRow) (now : Time)
    (hf : s.refuses candidate = true → s.MayFail marks call) :
    (s.connectTo t call row candidate now).Reflected marks := by
  have hl := h.same (mirror_logConnect s call.device candidate)
  unfold Service.connectTo
  dsimp only
  split
  · rename_i hc
    obtain ⟨link, hlink⟩ := Option.isSome_iff_exists.mp hc
    have hr : (s.logConnect call.device candidate).adapter.client = some link := hlink
    rw [readInitial, hr]
    exact hl
  · rename_i hc
    split
    · exact hl
    · rename_i hcur
      refine hl.release.fail (hf ?_) .connectInitialise Adapter.unsupportedDevice now
      have hc' : s.adapter.isConnected = false := Bool.eq_false_iff.mpr hc
      have hcur' : s.adapter.current candidate = false := Bool.eq_false_iff.mpr hcur
      rw [refuses, hc', hcur']
      rfl

theorem Reflected.lockConnect (h : s.Reflected marks) (now : Time)
    (hf : s.attemptFails call row .lockConnect .resumed = true → s.MayFail marks call) :
    (s.lockConnect t call row now).Reflected marks := by
  unfold Service.lockConnect
  dsimp only
  split
  · rename_i candidate hc
    obtain ⟨hx, hc⟩ := Option.ite_none_left_eq_some.mp hc
    refine Reflected.connectTo (h.same (mirror_acquire s)) row now (fun hr => hf ?_)
    have hget : s.candidates.get? row.discoveryId = some candidate := hc
    have hr' : s.refuses candidate = true := hr
    rw [attemptFails, hget, Option.any_some, hr', Bool.eq_false_iff.mpr hx]
    rfl
  · exact h

theorem Reflected.resolved (h : s.Reflected marks) {results : List Advertisement} {candidate : DiscoveredDevice}
    (hc : candidate ∈ s.adapter.candidates results) (row : DeviceRow) (now : Time) :
    ((s.discover results).resolved t call row candidate now).Reflected marks := by
  have hcur := (Adapter.candidate_id hc).2.2
  have hd := h.same (mirror_discover s results)
  have hu := hd.same (mirror_updateDevice (s.discover results) call.device
    (f := fun row => { row with discoveryId := candidate.discoveryId }) (fun _ => rfl))
  refine Reflected.connectTo hu row now (fun hr => ?_)
  have hr' : (!(s.adapter.discover results).isConnected && !(s.adapter.discover results).current candidate) = true := hr
  rw [hcur, Bool.not_true, Bool.and_false] at hr'
  cases hr'

theorem Reflected.identityMissing (h : s.Reflected marks) (hf : s.MayFail marks call) (now : Time) :
    (s.identityMissing t call now).Reflected marks := h.release.fail hf .registeredIdentityMissing _ now

theorem Reflected.discovered (h : s.Reflected marks) (results : List Advertisement) (now : Time)
    (hf : s.attemptFails call row .discovering (.found results) = true → s.MayFail marks call) :
    (s.discovered t call row results now).Reflected marks := by
  have hd := h.same (mirror_discover s results)
  unfold Service.discovered
  dsimp only
  split
  · rename_i hi
    exact hd.identityMissing (hf (by simp [attemptFails, hi])) now
  · split
    · rename_i hfind
      exact h.resolved (List.mem_of_find?_eq_some hfind) row now
    · exact hd

theorem Reflected.rediscovered (h : s.Reflected marks) (results : List Advertisement) (now : Time)
    (hf : s.attemptFails call row .rediscovering (.found results) = true → s.MayFail marks call) :
    (s.rediscovered t call row results now).Reflected marks := by
  have hd := h.same (mirror_discover s results)
  unfold Service.rediscovered
  dsimp only
  split
  · rename_i hfind
    exact h.resolved (List.mem_of_find?_eq_some hfind) row now
  · rename_i hfind
    exact hd.identityMissing (hf (by simp [attemptFails, hfind])) now

theorem Reflected.connected (h : s.Reflected marks) (row : DeviceRow) (candidate : DiscoveredDevice) (now : Time) :
    (s.connected t call row candidate now).Reflected marks :=
  h.same (mirror_telemetry (.of_beat (TelemetryState.communicationSucceeded_beat s.telemetry call.device
    s.adapter.source now)))

theorem Reflected.established (h : s.Reflected marks) (link : Link) {snapshot : DeviceSnapshot} (now : Time)
    (hs : s.telemetry.newer call.device snapshot = false → (s.mirror call.device).Shows (marks call.device) .polling) :
    ((s.establish call link snapshot now).complete t call now).Reflected marks := by
  have he : (s.establish call link snapshot now).Reflected marks :=
    h.update ((h call.device).record_polling hs) (mirror_establish s link snapshot)
  exact he.same (mirror_complete _)

theorem Reflected.resumeProcedure {point : Point} {outcome : Outcome} (h : s.Reflected marks)
    (hf : s.attemptFails call row point outcome = true → s.MayFail marks call)
    (hr : ∀ link snapshot, point = .reading link → outcome = .read snapshot →
      s.telemetry.newer call.device snapshot = false → (s.mirror call.device).Shows (marks call.device) .polling)
    (hs : s.resumeProcedure t call row point outcome now = some s') : s'.Reflected marks := by
  unfold Service.resumeProcedure at hs
  split at hs
  · split at hs
    · exact Option.some.inj hs ▸ h.recoveryStopped row now
    · cases hs
  · split at hs
    · exact Option.some.inj hs ▸ h.pollingStopped row now
    · cases hs
  · split at hs
    · exact Option.some.inj hs ▸ h
    · cases hs
  · exact Option.some.inj hs ▸ h.disconnected row now
  · exact Option.some.inj hs ▸ h
  · exact Option.some.inj hs ▸ h.release.fail (hf rfl) .bluezRelease _ now
  · split at hs
    · exact Option.some.inj hs ▸ h.lockConnect now hf
    · cases hs
  · exact Option.some.inj hs ▸ h.discovered _ now hf
  · exact Option.some.inj hs ▸ h.release.fail (hf rfl) .discovery _ now
  · obtain rfl := Option.some.inj hs
    split
    · exact h
    · rename_i hx
      exact h.identityMissing (hf (by simpa [attemptFails] using hx)) now
  · exact Option.some.inj hs ▸ h.release.fail (hf rfl) .bluezRelease _ now
  · exact Option.some.inj hs ▸ h.rediscovered _ now hf
  · exact Option.some.inj hs ▸ h.release.fail (hf rfl) .rediscovery _ now
  · exact Option.some.inj hs ▸ h.connected row _ now
  · exact Option.some.inj hs ▸ h.release.fail (hf rfl) .connectInitialise _ now
  · exact Option.some.inj hs ▸ h.established _ now (hr _ _ rfl rfl)
  · exact Option.some.inj hs ▸ h.release.fail (hf rfl) .initialRead _ now
  · cases hs

theorem Reflected.attempt (h : s.Reflected marks) (d : DeviceId) (now : Time) :
    (s.attempt t d now).Reflected marks := by
  have hn : (s.logAttempt d).Reflected marks := h
  exact (hn.same (mirror_newOperation _ .reconnect (some d) now)).beginProcedure _ now

theorem Reflected.resumeRecovery (h : s.Reflected marks) (d : DeviceId) (point : RecoveryPoint) (now : Time) :
    (s.resumeRecovery t d point now).Reflected marks := by
  unfold Service.resumeRecovery
  split
  · split
    · exact h.attempt d now
    · exact h.same (mirror_recoverNext s d)
  · exact h.attempt d now

end Procedures

section Polling

variable {d : DeviceId} {poll : PollState}

theorem mirror_counted (s : Service) (d : DeviceId) (poll : PollState) (now : Time) : (s.counted d poll now).mirror =
    if poll.failures ≠ 0 ∧ s.settings.degradedAfter ≤ poll.failures then
      Function.update s.mirror d ((s.mirror d).observe .degraded)
    else s.mirror := by
  unfold counted
  split
  · exact mirror_observe s d .degraded
  · rfl

theorem mirror_pollEnd (s : Service) (t : TaskId) (d : DeviceId) (poll : PollState) (now clock : Time) :
    (s.pollEnd t d poll now clock).mirror =
      if s.givesUp poll.lastValid clock then Function.update s.mirror d ((s.mirror d).observe .backoff)
      else s.mirror := by
  unfold pollEnd givesUp
  split
  · rw [mirror_endPolling, mirror_scheduleRecovery, mirror_observe, mirror_noteError]
  · exact mirror_pollNext s d poll

theorem givesUp_counted (s : Service) (d : DeviceId) (poll : PollState) (lastValid : Time) :
    (s.counted d poll now).givesUp lastValid clock = s.givesUp lastValid clock := by
  unfold counted
  split <;> rfl

theorem Reflected.pollEnd (h : s.Reflected marks) : (s.pollEnd t d poll now clock).Reflected marks := by
  have he := mirror_pollEnd s t d poll now clock
  split at he
  · exact h.update (h d).observe he
  · exact h.same he

theorem Reflected.pollCounted (h : s.Reflected marks) : (s.pollCounted t d poll now clock).Reflected marks := by
  rw [pollCounted_eq]
  apply Reflected.pollEnd
  have he := mirror_counted s d poll now
  split at he
  · exact h.update (h d).observe he
  · exact h.same he

theorem pollCounted_reflected (h : ∀ d', d' ≠ d → (s.mirror d').Holds (marks d')) (hr : (s.mirror d).recorded = true)
    (hd : poll.failures ≠ 0 ∧ s.settings.degradedAfter ≤ poll.failures ∨ s.givesUp poll.lastValid clock = true ∨
      (s.mirror d).Holds (marks d)) : (s.pollCounted t d poll now clock).Reflected marks := by
  have hobserve : ∀ {s' : Service} {state : ConnectionState},
      s'.mirror = Function.update s.mirror d ((s.mirror d).observe state) → s'.Reflected marks := by
    intro s' state he d'
    rw [he]
    by_cases hd' : d' = d
    · rw [hd', Function.update_self]
      exact Mirror.observe_holds hr
    · rw [Function.update_of_ne hd']
      exact h d' hd'
  have hc := mirror_counted s d poll now
  by_cases hdeg : poll.failures ≠ 0 ∧ s.settings.degradedAfter ≤ poll.failures
  · rw [if_pos hdeg] at hc
    rw [pollCounted_eq]
    exact (hobserve hc).pollEnd
  · rw [if_neg hdeg] at hc
    by_cases hg : s.givesUp poll.lastValid clock = true
    · have he := mirror_pollEnd (s.counted d poll now) t d (countedPoll poll clock) now clock
      rw [countedPoll_lastValid, givesUp_counted, if_pos hg, hc] at he
      rw [pollCounted_eq]
      exact hobserve he
    · refine Reflected.pollCounted (fun d' => ?_)
      by_cases hd' : d' = d
      · rw [hd']
        exact (hd.resolve_left hdeg).resolve_left hg
      · exact h d' hd'

theorem advances_record (s : Service) (snapshot : DeviceSnapshot) (link : Link) :
    (s.record d snapshot link now).advances poll snapshot now = s.advances poll snapshot now := by
  unfold advances Service.record
  rw [TelemetryState.record_staleAfter]

theorem mirror_settled (s : Service) (d : DeviceId) (poll : PollState) :
    (s.settled d poll clock).mirror = s.mirror := by
  unfold settled
  split <;> rfl

theorem givesUp_settled (s : Service) (d : DeviceId) (poll : PollState) (lastValid : Time) :
    (s.settled d poll clock).givesUp lastValid clock = s.givesUp lastValid clock := by
  unfold settled
  split <;> rfl

theorem Reflected.pollValid (h : s.Reflected marks) (link : Link) {snapshot : DeviceSnapshot} (last : Option Time)
    (stable : Time) (hs : s.telemetry.newer d snapshot = false → s.givesUp clock clock = false →
      (s.mirror d).Shows (marks d) .polling) :
    ((((s.record d snapshot link now).setObserved d .polling).settled d poll clock).pollCounted t d
      ⟨0, clock, stable, last⟩ now clock).Reflected marks := by
  have hm : (((s.record d snapshot link now).setObserved d .polling).settled d poll clock).mirror =
      Function.update s.mirror d (((s.mirror d).record (s.telemetry.newer d snapshot)).store .polling) := by
    rw [mirror_settled, mirror_setObserved, mirror_record, Function.update_self, Function.update_idem]
  apply pollCounted_reflected
  · intro d' hd'
    rw [hm, Function.update_of_ne hd']
    exact h d'
  · rw [hm, Function.update_self]
    rfl
  · cases hg : s.givesUp clock clock with
    | true =>
      refine .inr (.inl ?_)
      rw [givesUp_settled]
      exact hg
    | false =>
      refine .inr (.inr ?_)
      rw [hm, Function.update_self]
      exact (h d).record_polling (fun hn => hs hn hg)

theorem Reflected.pollInvalid (h : s.Reflected marks) (link : Link) {snapshot : DeviceSnapshot}
    (hp : s.telemetry.newer d snapshot = true → ¬ s.settings.degradedAfter ≤ poll.failures + 1 →
      s.givesUp poll.lastValid clock = false → (s.mirror d).Keeps .polling) :
    ((s.record d snapshot link now).pollFailed t d poll now clock).Reflected marks := by
  have hm := mirror_record s d snapshot link now
  apply pollCounted_reflected
  · intro d' hd'
    rw [hm, Function.update_of_ne hd']
    exact h d'
  · rw [hm, Function.update_self]
    rfl
  · by_cases hdeg : s.settings.degradedAfter ≤ poll.failures + 1
    · exact .inl ⟨Nat.succ_ne_zero _, hdeg⟩
    · cases hg : s.givesUp poll.lastValid clock with
      | true => exact .inr (.inl hg)
      | false =>
        refine .inr (.inr ?_)
        rw [hm, Function.update_self]
        cases hn : s.telemetry.newer d snapshot with
        | true => exact Mirror.record_newer_holds (hp hn hdeg hg)
        | false => exact (h d).record_older

theorem Reflected.pollRead (h : s.Reflected marks) (link : Link) {snapshot : DeviceSnapshot}
    (hs : s.advances poll snapshot now = true → s.telemetry.newer d snapshot = false →
      s.givesUp clock clock = false → (s.mirror d).Shows (marks d) .polling)
    (hp : s.advances poll snapshot now = false → s.telemetry.newer d snapshot = true →
      ¬ s.settings.degradedAfter ≤ poll.failures + 1 → s.givesUp poll.lastValid clock = false →
      (s.mirror d).Keeps .polling) : (s.pollRead t d poll link snapshot now clock).Reflected marks := by
  have ha : (s.release.record d snapshot link now).advances poll snapshot now = s.advances poll snapshot now :=
    advances_record s.release snapshot link
  unfold Service.pollRead
  dsimp only
  rw [ha]
  split
  · rename_i hadv
    exact h.release.pollValid link _ _ (hs hadv)
  · rename_i hadv
    exact h.release.pollInvalid link (hp (Bool.eq_false_iff.mpr hadv))

theorem Reflected.resumePolling {point : PollPoint} {outcome : Outcome} (h : s.Reflected marks)
    (hs : ∀ poll link snapshot, point = .reading poll link → outcome = .read snapshot →
      s.advances poll snapshot now = true → s.telemetry.newer d snapshot = false →
      s.givesUp clock clock = false → (s.mirror d).Shows (marks d) .polling)
    (hp : ∀ poll link snapshot, point = .reading poll link → outcome = .read snapshot →
      s.advances poll snapshot now = false → s.telemetry.newer d snapshot = true →
      ¬ s.settings.degradedAfter ≤ poll.failures + 1 → s.givesUp poll.lastValid clock = false →
      (s.mirror d).Keeps .polling)
    (hr : s.resumePolling t d point outcome now clock = some s') : s'.Reflected marks := by
  unfold Service.resumePolling at hr
  split at hr
  · exact Option.some.inj hr ▸ h.same (mirror_pollNext s d _)
  · obtain rfl := Option.some.inj hr
    split <;> exact h
  · split at hr
    · obtain rfl := Option.some.inj hr
      unfold pollLocked
      split
      · exact h
      · exact h.pollCounted
    · cases hr
  · exact Option.some.inj hr ▸ h.pollRead _ (hs _ _ _ rfl rfl) (hp _ _ _ rfl rfl)
  · exact Option.some.inj hr ▸ h.release.pollCounted
  · exact Option.some.inj hr ▸ h
  · cases hr

end Polling

section Tasks

theorem mirror_resumeScan {point : ScanPoint} {outcome : Outcome} (hs : s.resumeScan t point outcome now = some s') :
    s'.mirror = s.mirror := by
  unfold resumeScan at hs
  split at hs
  · rw [← Option.some.inj hs, mirror_suspend, mirror_markRunning]
  · split at hs
    · exact Option.some.inj hs ▸ rfl
    · cases hs
  · rw [← Option.some.inj hs, scanned, mirror_endTask, mirror_finish]
    rfl
  · rw [← Option.some.inj hs, mirror_endTask, mirror_finish, mirror_release]
  · cases hs

theorem mirror_discoveryNext (s : Service) : (s.discoveryNext t).mirror = s.mirror := by
  unfold discoveryNext
  split <;> rfl

theorem mirror_resumeDiscovery {point : DiscoveryPoint} {outcome : Outcome}
    (hs : s.resumeDiscovery t point outcome = some s') : s'.mirror = s.mirror := by
  unfold resumeDiscovery at hs
  split at hs
  · rw [← Option.some.inj hs, mirror_discoveryNext]
  · exact Option.some.inj hs ▸ rfl
  · split at hs
    · exact Option.some.inj hs ▸ rfl
    · cases hs
  · rw [← Option.some.inj hs, mirror_discoveryNext]
    rfl
  · rw [← Option.some.inj hs, mirror_discoveryNext]
    rfl
  · cases hs

theorem Reflected.resumeDeletion {d : DeviceId} {point : DeletePoint} {outcome : Outcome} (h : s.Reflected marks)
    (hs : s.resumeDeletion t d point outcome now = some s') : s'.Reflected marks := by
  unfold Service.resumeDeletion at hs
  split at hs
  · split at hs
    · obtain rfl := Option.some.inj hs
      unfold deleteRecoveryStopped
      split
      · exact h.same (mirror_deletePolling s d _)
      · exact h.removeDevice d now
    · cases hs
  · split at hs
    · exact Option.some.inj hs ▸ h
    · cases hs
  · split at hs
    · exact Option.some.inj hs ▸ h
    · cases hs
  · obtain rfl := Option.some.inj hs
    have hc : (s.release.setConnected none).Reflected marks := h
    exact hc.removeDevice d now
  · cases hs

theorem Reflected.closeAdapter (h : s.Reflected marks) : (s.closeAdapter t now).Reflected marks := by
  unfold Service.closeAdapter
  dsimp only
  split
  · exact Reflected.observe (s := { s with store := s.store.interruptOperations now }) h _ .disconnected now
  · exact h

theorem Reflected.closeRemaining (h : s.Reflected marks) : (s.closeRemaining t now).Reflected marks := by
  unfold Service.closeRemaining
  dsimp only
  split
  · exact h.closeAdapter
  · exact h.same (mirror_cancelAll s _)

theorem Reflected.closePolling (h : s.Reflected marks) : (s.closePolling t now).Reflected marks := by
  have hc := h.same (mirror_cancelAll { s with pollingTasks := Dict.empty } s.pollingTasks.values)
  unfold Service.closePolling
  dsimp only
  split
  · exact hc.closeRemaining
  · exact hc

theorem Reflected.closeRecoveries (h : s.Reflected marks) : (s.closeRecoveries t now).Reflected marks := by
  have hc := h.same (mirror_cancelAll { s with recoveries := Dict.empty } s.recoveries.values)
  unfold Service.closeRecoveries
  dsimp only
  split
  · exact hc.closePolling
  · exact hc

theorem Reflected.closeOperations (h : s.Reflected marks) : (s.closeOperations t now).Reflected marks := by
  unfold Service.closeOperations
  dsimp only
  split
  · exact h.closeRecoveries
  · exact h.same (mirror_cancelAll s _)

theorem Reflected.resumeClosing {point : ClosePoint} {outcome : Outcome} (h : s.Reflected marks)
    (hs : s.resumeClosing t point outcome now = some s') : s'.Reflected marks := by
  unfold Service.resumeClosing at hs
  split at hs
  · split at hs
    · exact Option.some.inj hs ▸ h.closeOperations
    · cases hs
  · split at hs
    · exact Option.some.inj hs ▸ h.closeRecoveries
    · cases hs
  · split at hs
    · exact Option.some.inj hs ▸ h.closePolling
    · cases hs
  · split at hs
    · exact Option.some.inj hs ▸ h.closeRemaining
    · cases hs
  · split at hs
    · exact Option.some.inj hs ▸ h.closeAdapter
    · cases hs
  · exact Option.some.inj hs ▸ h
  · cases hs

theorem mirror_interrupted {f : Frame} (hs : s.interrupted t f now = some s') : s'.mirror = s.mirror := by
  unfold interrupted at hs
  split at hs
  · exact Option.some.inj hs ▸ rfl
  · exact Option.some.inj hs ▸ rfl
  · exact Option.some.inj hs ▸ rfl
  · rename_i call row point
    unfold interruptProcedure at hs
    split at hs
    · obtain rfl := Option.some.inj hs
      have hlock : (if point.holdsLock then s.release else s).mirror = s.mirror := by split <;> rfl
      split
      · rw [mirror_endRecovery, mirror_markInterrupted, hlock]
      · rw [mirror_endTask, mirror_markInterrupted, hlock]
    · cases hs
  · exact Option.some.inj hs ▸ rfl
  · obtain rfl := Option.some.inj hs
    unfold interruptPolling
    split <;> rfl
  · obtain rfl := Option.some.inj hs
    unfold interruptScan
    split
    · rfl
    · rw [mirror_endTask, mirror_markInterrupted]
    · rw [mirror_endTask, mirror_markInterrupted, mirror_release]
  · obtain rfl := Option.some.inj hs
    unfold interruptDiscovery
    split <;> rfl
  · cases hs
  · cases hs
  · cases hs

end Tasks

section Requests

theorem mirror_startScan (s : Service) : ((s.startScan now).toOption.elim s Prod.fst).mirror = s.mirror := by
  unfold startScan
  split
  · rfl
  · split <;> rfl

theorem mirror_patchDevice (s : Service) (d : DeviceId) (patch : DevicePatch) :
    ((s.patchDevice d patch).toOption.getD s).mirror = s.mirror := by
  unfold patchDevice
  split
  · rfl
  · split
    · rfl
    · exact (mirror_viewDevice _ d).trans (mirror_updateDevice s d (fun _ => rfl))

theorem mirror_startConnectionOperation (s : Service) (d : DeviceId) (action : ConnectionAction) :
    ((s.startConnectionOperation d action now).toOption.elim s Prod.fst).mirror = s.mirror := by
  unfold startConnectionOperation
  split
  · rfl
  · split
    · rfl
    · split
      · split <;> rfl
      · split
        · rfl
        · exact mirror_updateDevice { s with owner := _ } d (fun _ => rfl)

theorem Reflected.deleteDevice (h : s.Reflected marks) (d : DeviceId) : (s.deleteDevice d now).2.Reflected marks := by
  have hv := h.same (mirror_viewDevice s d)
  unfold Service.deleteDevice
  dsimp only
  split
  · exact h
  · split
    · exact hv
    · split
      · exact hv
      · split
        · exact hv.same (mirror_deletePolling _ d _)
        · exact hv.removeDevice d now

theorem mirror_register {id : DiscoveryId} {name : Option String} {automatic : Bool} {suffix : String}
    {r : Service × DeviceId} (h : s.register id name automatic suffix now = .ok r) {d : DeviceId}
    (hd : ¬ ((s.store.device d).isNone ∧ (r.1.store.device d).isSome)) : r.1.mirror d = s.mirror d := by
  unfold register at h
  split at h
  · cases h
  · split at h
    · cases h
    · dsimp only at h
      generalize (if _ = "" then _ else _ : String) = device at h
      split at h
      · cases h
      · rename_i hnew
        obtain rfl := Except.ok.inj h
        have hne : d ≠ device := by
          rintro rfl
          refine hd ⟨by simpa using hnew, ?_⟩
          simp [spawn, viewDevice]
        rw [mirror_spawn, mirror_viewDevice]
        refine Mirror.ext ?_ rfl rfl
        simp [mirror, observed, hne]

theorem mirror_startDevice (s : Service) (r : DeviceRow) : (s.startDevice now r).mirror =
    Function.update s.mirror r.deviceId ((s.mirror r.deviceId).store .disconnected) := by
  have hset := mirror_setObserved (s.registerHeartbeat r.deviceId r.desiredState now) r.deviceId .disconnected
  rw [mirror_registerHeartbeat] at hset
  unfold startDevice
  dsimp only
  split
  · rw [mirror_scheduleRecovery]
    exact hset
  · exact hset

theorem events_start (s : Service) (d : DeviceId) : ((s.start now).mirror d).events = (s.mirror d).events := by
  have hloop : ∀ (rows : List DeviceRow) (s : Service),
      ((rows.foldl (fun s row => s.startDevice now row) s).mirror d).events = (s.mirror d).events := by
    intro rows
    induction rows with
    | nil => exact fun _ => rfl
    | cons r rows ih =>
      intro s
      rw [List.foldl_cons, ih, mirror_startDevice]
      by_cases hd : d = r.deviceId <;> simp [Function.update_apply, hd, Mirror.store]
  exact hloop _ (s.startDiscovery now)

theorem reflected_of_silent (h : ∀ d, (s.mirror d).events = []) : s.Reflected marks := by
  intro d
  refine .of_shown ?_
  rw [Mirror.shown, h d]
  split <;> rfl

theorem Started.reflected (h : Started s) : s.Reflected marks := by
  obtain ⟨boot, now, ⟨settings, store, T, nextDiscoveryId, nextOperation, hT, -, rfl⟩, rfl⟩ := h
  obtain ⟨_, _, _, _, _, _, _, _, _, rfl⟩ := hT
  exact reflected_of_silent (events_start _)

theorem restart_reflected (s : Service) : (s.restart now).Reflected marks :=
  reflected_of_silent (events_start s.successor)

end Requests

section Steps

variable {point : Point} {outcome : Outcome} {d : DeviceId} {poll : PollState} {link : Link} {snapshot : DeviceSnapshot}

theorem stores_fails (ha : s.acting (.resume t outcome now clock) = some (.procedure call row point))
    (hf : s.attemptFails call row point outcome = true) :
    s.stores (.resume t outcome now clock) = some (call.device, call.action.failed) := by
  unfold stores
  rw [ha]
  split
  · rename_i hp ho
    cases hp
    cases ho
    cases hf
  · rename_i hp ho
    cases hp
    cases ho
    exact if_pos hf
  · rename_i hp ho
    cases hp
  · rename_i hp _
    exact (hp _ _ _ _ _ _ _ rfl rfl).elim

theorem stores_initial
    (ha : s.acting (.resume t (.read snapshot) now clock) = some (.procedure call row (.reading link)))
    (hn : s.telemetry.newer call.device snapshot = false) :
    s.stores (.resume t (.read snapshot) now clock) = some (call.device, .polling) := by
  simp [stores, ha, hn]

theorem stores_valid (ha : s.acting (.resume t (.read snapshot) now clock) = some (.polling d (.reading poll link)))
    (hadv : s.advances poll snapshot now = true) (hn : s.telemetry.newer d snapshot = false)
    (hg : s.givesUp clock clock = false) : s.stores (.resume t (.read snapshot) now clock) = some (d, .polling) := by
  simp [stores, ha, hadv, hn, hg]

theorem shows_invalid (ha : s.acting (.resume t (.read snapshot) now clock) = some (.polling d (.reading poll link)))
    (hadv : s.advances poll snapshot now = false) (hn : s.telemetry.newer d snapshot = true)
    (hdeg : ¬ s.settings.degradedAfter ≤ poll.failures + 1) (hg : s.givesUp poll.lastValid clock = false) :
    s.shows (.resume t (.read snapshot) now clock) = some (d, .polling) := by
  simp [shows, ha, hadv, hn, hdeg, hg]

theorem Reflected.resume (h : s.Reflected marks)
    (hst : ∀ p ∈ s.stores (.resume t outcome now clock), (s.mirror p.1).Shows (marks p.1) p.2)
    (hsh : ∀ p ∈ s.shows (.resume t outcome now clock), (s.mirror p.1).Keeps p.2)
    (hs : s.resume t outcome now clock = some s') : s'.Reflected marks := by
  unfold Service.resume at hs
  split at hs
  · cases hs
  · rename_i task ht
    split at hs
    · exact h.same (mirror_interrupted hs)
    · rename_i hcancel
      have ha : s.acting (.resume t outcome now clock) = some task.frame := by simp [acting, ht, hcancel]
      unfold advance at hs
      split at hs
      · exact Option.some.inj hs ▸ h.beginProcedure _ now
      · rename_i call row point _ hf
        rw [hf] at ha
        refine h.resumeProcedure (fun hfail => hst _ (stores_fails ha hfail)) ?_ hs
        rintro link snapshot rfl rfl hn
        exact hst _ (stores_initial ha hn)
      · exact Option.some.inj hs ▸ h.resumeRecovery _ _ now
      · rename_i d point _ hf
        rw [hf] at ha
        refine h.resumePolling ?_ ?_ hs
        · rintro poll link snapshot rfl rfl hadv hn hg
          exact hst _ (stores_valid ha hadv hn hg)
        · rintro poll link snapshot rfl rfl hadv hn hdeg hg
          exact hsh _ (shows_invalid ha hadv hn hdeg hg)
      · obtain rfl := Option.some.inj hs
        exact h.same (by rw [pollCallback, mirror_endPolling, mirror_scheduleRecovery, mirror_noteError])
      · exact h.same (mirror_resumeScan hs)
      · exact h.same (mirror_resumeDiscovery hs)
      · exact Option.some.inj hs ▸ h.same (mirror_publishOperation s _)
      · exact Option.some.inj hs ▸ h.same (mirror_registerHeartbeat s _ _)
      · exact h.resumeDeletion hs
      · exact h.resumeClosing hs
      · cases hs

end Steps

end Service

namespace MirrorRun

open Service

variable {r r' : MirrorRun} {a : Action}

theorem holds_registered {s : Service} {d : DeviceId} : (s.mirror d).Holds (s.telemetry.connections d).length :=
  .of_shown (if_neg (lt_irrefl _))

theorem step_reflected (h : r.service.Reflected r.marks) (hp : r.Pairs a) (hr : r.step a = some r') :
    r'.service.Reflected r'.marks := by
  obtain ⟨s', hs, rfl⟩ := Option.map_eq_some_iff.mp hr
  have hkept : s'.Reflected r.marks → Reflected (fun device =>
      if (r.service.store.device device).isNone && (s'.store.device device).isSome then
        (s'.telemetry.connections device).length
      else r.marks device) s' := by
    intro hm d
    dsimp only
    split
    · exact holds_registered
    · exact hm d
  cases a with
  | startScan now => exact hkept (h.same (Option.some.inj hs ▸ mirror_startScan r.service))
  | register id name automatic suffix now =>
    intro d
    dsimp only
    split
    · exact holds_registered
    · rename_i hd
      simp only [Service.step, Option.some.injEq] at hs
      cases hreg : r.service.register id name automatic suffix now with
      | error e =>
        rw [hreg] at hs
        exact hs ▸ h d
      | ok p =>
        rw [hreg] at hs
        obtain rfl : p.1 = s' := hs
        rw [mirror_register hreg (by simpa using hd)]
        exact h d
  | patchDevice d patch => exact hkept (h.same (Option.some.inj hs ▸ mirror_patchDevice r.service d patch))
  | deleteDevice d now => exact hkept (Option.some.inj hs ▸ h.deleteDevice d)
  | startConnectionOperation d action now =>
    exact hkept (h.same (Option.some.inj hs ▸ mirror_startConnectionOperation r.service d action))
  | viewDevice d =>
    simp only [Service.step] at hs
    split at hs
    · exact hkept (Option.some.inj hs ▸ h.same (mirror_viewDevice r.service d))
    · exact hkept (Option.some.inj hs ▸ h)
  | close =>
    simp only [Service.step] at hs
    split at hs
    · cases hs
    · exact hkept (Option.some.inj hs ▸ h)
  | restart now => exact Option.some.inj hs ▸ restart_reflected r.service
  | resume t outcome now clock => exact hkept (h.resume hp.1 hp.2 hs)
  | linkLost => exact hkept (Option.some.inj hs ▸ h)
  | staleDeadline d now =>
    obtain ⟨T, hT, rfl⟩ := Option.map_eq_some_iff.mp hs
    exact hkept (h.same (mirror_telemetry (TelemetryState.staleDeadline_sameConnections hT)))
  | heartbeatDeadline d now =>
    obtain ⟨T, hT, rfl⟩ := Option.map_eq_some_iff.mp hs
    exact hkept (h.same (mirror_telemetry (.of_beat (TelemetryState.heartbeatDeadline_beat hT))))

theorem reflected (h : Reaches Initial step Pairs r) : r.service.Reflected r.marks := by
  refine h.invariant (fun r hr => ?_) (fun r a r' hr hp hs => step_reflected hr hp hs)
  obtain ⟨hstart, hmarks⟩ := hr
  exact hstart.reflected

theorem connection_mirrored (h : Reaches Initial step Pairs r) (d : DeviceId) : r.Agrees d := (reflected h d).agrees

def first : MirrorRun := ⟨firstSession, fun _ => 0⟩

theorem first_initial : first.Initial := ⟨firstSession_started, rfl⟩

def abandonFirst : List Action :=
  connectFirst ++ [go 4, go 4, go 4, .resume 4 (.raised ⟨"AdapterError", "read failed"⟩) 0 40000000]

theorem connection_mirrored_abandoned : ∃ r, replayIf (fun r a => decide (r.Pairs a)) step first abandonFirst = some r ∧
    r.service.quiescent "igrill-v202-a" = true ∧ r.service.observed "igrill-v202-a" = some .backoff ∧
    r.shown "igrill-v202-a" = some (connectionData .backoff) := by
  have hrun : (replayIf (fun r a => decide (r.Pairs a)) step first abandonFirst).map (fun r =>
      (r.service.quiescent "igrill-v202-a", r.service.observed "igrill-v202-a", (r.shown "igrill-v202-a").isSome)) =
      some (true, some .backoff, true) := by decide +kernel
  obtain ⟨r, hr, hf⟩ := Option.map_eq_some_iff.mp hrun
  obtain ⟨hq, hf⟩ := Prod.mk.inj hf
  obtain ⟨ho, hs⟩ := Prod.mk.inj hf
  obtain ⟨data, hdata⟩ := Option.isSome_iff_exists.mp hs
  have hreach := Reaches.of_replayIf (fun _ _ hp => of_decide_eq_true hp) (.init first_initial) hr
  rw [connection_mirrored hreach "igrill-v202-a" .backoff data ho hdata] at hdata
  exact ⟨r, hr, hq, ho, hdata⟩

def failFirst : List Action :=
  connectFirst ++
  [.startConnectionOperation "igrill-v202-a" .reconnect 0, go 6, go 4, go 6, go 6, go 6,
   .resume 6 (.raised ⟨"AdapterError", "registered-device BlueZ connection could not be released"⟩) 0 0]

/-- The store has the device in backoff and the last event still shows it polling. -/
theorem not_connection_mirrored : ¬ ∀ r d, Reachable Initial step r → r.service.quiescent d = true → r.Agrees d := by
  intro h
  have hrun : (replay step first failFirst).map (fun r => (r.service.quiescent "igrill-v202-a",
      r.service.observed "igrill-v202-a", r.shown "igrill-v202-a")) =
      some (true, some .backoff, some (connectionData .polling)) := by decide +kernel
  obtain ⟨r, hr, hf⟩ := Option.map_eq_some_iff.mp hrun
  obtain ⟨hq, hf⟩ := Prod.mk.inj hf
  obtain ⟨ho, hs⟩ := Prod.mk.inj hf
  have hdata := h r "igrill-v202-a" (.of_replay (.init first_initial) hr) hq .backoff _ ho hs
  exact absurd hdata (by decide)

end MirrorRun

end PitbluCore
