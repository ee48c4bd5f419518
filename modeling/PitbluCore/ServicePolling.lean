import PitbluCore.TelemetryFrames
import PitbluCore.ServiceProcedures

namespace PitbluCore

open Library

/-- A completed cycle: the snapshot unless its read raised, the clocks at the end of the read, and the
connectivity there. -/
structure PollCycle where
  read : Option DeviceSnapshot
  now : Time
  clock : Time
  connected : Bool

structure PollStart where
  clock : Time
  observed : Option Time
  staleAfter : Duration
  settings : ServiceSettings
  deriving DecidableEq

namespace PollStart

variable (p : PollStart)

def advances (last : Option Time) (c : PollCycle) : Bool :=
  match c.read with
  | some snapshot =>
    c.now - snapshot.observedAt < p.staleAfter && snapshot.anyAvailable &&
      last.all (fun last => decide (last < snapshot.observedAt))
  | none => false

def lastObserved : List PollCycle → Option Time
  | [] => p.observed
  | c :: cs => if p.advances (lastObserved cs) c then c.read.map DeviceSnapshot.observedAt else lastObserved cs

def valid (c : PollCycle) (cs : List PollCycle) : Bool := p.advances (p.lastObserved cs) c

def lastValid : List PollCycle → Time
  | [] => p.clock
  | c :: cs => if p.valid c cs then c.clock else lastValid cs

def lastInvalid : List PollCycle → Time
  | [] => p.clock
  | c :: cs => if p.valid c cs then lastInvalid cs else c.clock

def invalidRun : List PollCycle → ℕ
  | [] => 0
  | c :: cs => if p.valid c cs then 0 else invalidRun cs + 1

def givesUp (c : PollCycle) (cs : List PollCycle) : Bool :=
  !c.connected || decide (p.settings.reconnectAfter ≤ c.clock - p.lastValid (c :: cs))

def stateAfter (cs : List PollCycle) : ConnectionState :=
  if p.invalidRun cs ≠ 0 ∧ p.settings.degradedAfter ≤ p.invalidRun cs then .degraded else .polling

def resets (c : PollCycle) (cs : List PollCycle) : Bool :=
  p.valid c cs && decide (p.settings.stableAfter ≤ c.clock - p.lastInvalid cs)

def locals (cs : List PollCycle) : PollState := ⟨p.invalidRun cs, p.lastValid cs, p.lastInvalid cs, p.lastObserved cs⟩

section Cycles

variable {p : PollStart} {c : PollCycle} {cs : List PollCycle}

theorem locals_valid (h : p.valid c cs) :
    p.locals (c :: cs) = ⟨0, c.clock, p.lastInvalid cs, c.read.map DeviceSnapshot.observedAt⟩ := by
  have ha : p.advances (p.lastObserved cs) c = true := h
  simp [locals, invalidRun, lastValid, lastInvalid, lastObserved, h, ha]

theorem locals_invalid (h : p.valid c cs = false) :
    p.locals (c :: cs) = ⟨p.invalidRun cs + 1, p.lastValid cs, c.clock, p.lastObserved cs⟩ := by
  have ha : p.advances (p.lastObserved cs) c = false := h
  simp [locals, invalidRun, lastValid, lastInvalid, lastObserved, h, ha]

theorem stateAfter_valid (h : p.valid c cs) : p.stateAfter (c :: cs) = .polling := by
  simp [stateAfter, invalidRun, h]

theorem stateAfter_invalid (h : p.valid c cs = false) : p.stateAfter (c :: cs) =
    if p.settings.degradedAfter ≤ p.invalidRun cs + 1 then .degraded else p.stateAfter cs := by
  have hrun : p.invalidRun (c :: cs) = p.invalidRun cs + 1 := by simp [invalidRun, h]
  unfold stateAfter
  rw [hrun]
  by_cases hd : p.settings.degradedAfter ≤ p.invalidRun cs + 1
  · simp [hd]
  · have hd' : ¬p.settings.degradedAfter ≤ p.invalidRun cs := by omega
    simp [hd, hd']

end Cycles

end PollStart

namespace Service

def observed (s : Service) (device : DeviceId) : Option ConnectionState :=
  (s.store.device device).map DeviceRow.observedState

def readOf (s : Service) (point : PollPoint) (outcome : Outcome) : Option (Option DeviceSnapshot) :=
  match point, outcome with
  | .reading _ _, .read snapshot => some (some snapshot)
  | .reading _ _, .raised _ => some none
  -- the adapter has no client, so `read_snapshot` raises at once
  | .lock _, .resumed => if s.adapter.client.isNone then some none else none
  | _, _ => none

end Service

structure PollRun where
  task : TaskId
  device : DeviceId
  start : PollStart
  service : Service
  cycles : List PollCycle

inductive PollAction
  | resume (outcome : Outcome) (now clock : Time)
  | other (s : Service)

namespace PollRun

variable (r : PollRun)

def point : Option PollPoint :=
  match r.service.tasks.get? r.task with
  | some ⟨.polling _ point, _⟩ => some point
  | _ => none

/-- Other tasks leave the poll, its device's connection and stored state, and the settings alone. -/
def Undisturbed (s : Service) : Prop :=
  s.tasks.get? r.task = r.service.tasks.get? r.task ∧ s.connectedDevice = r.service.connectedDevice ∧
    s.observed r.device = r.service.observed r.device ∧ s.settings = r.service.settings ∧
    s.telemetry.staleAfter = r.service.telemetry.staleAfter

instance (s : Service) : Decidable (r.Undisturbed s) := inferInstanceAs (Decidable (_ ∧ _ ∧ _ ∧ _ ∧ _))

def step (r : PollRun) : PollAction → Option PollRun
  | .resume outcome now clock =>
    match r.point, outcome with
    | none, _ | _, .crashed => none
    | some point, outcome =>
      (r.service.resume r.task outcome now clock).map (fun s =>
        { r with
          service := s
          cycles := match r.service.readOf point outcome with
            | some read => ⟨read, now, clock, r.service.adapter.isConnected⟩ :: r.cycles
            | none => r.cycles })
  | .other s => if r.point.isSome ∧ r.Undisturbed s then some { r with service := s } else none

def Initial (r : PollRun) : Prop :=
  ∃ (s : Service) (now : Time), s.tasks.get? r.task = some ⟨.polling r.device .starting, false⟩ ∧
    s.connectedDevice = some r.device ∧ s.observed r.device = some .polling ∧
    r.start = ⟨r.start.clock, s.telemetry.observedAt r.device, s.telemetry.staleAfter, s.settings⟩ ∧
    s.resume r.task .resumed now r.start.clock = some r.service ∧ r.cycles = []

end PollRun

namespace Service

variable {s s' : Service} {t : TaskId} {d : DeviceId} {poll : PollState} {point : PollPoint} {outcome : Outcome}
  {now clock : Time}

structure KeepsPoll (s s' : Service) : Prop where
  connected : s'.connectedDevice = s.connectedDevice
  settings : s'.settings = s.settings
  staleAfter : s'.telemetry.staleAfter = s.telemetry.staleAfter

theorem KeepsPoll.refl (s : Service) : KeepsPoll s s := ⟨rfl, rfl, rfl⟩

theorem KeepsPoll.trans {s'' : Service} (h : KeepsPoll s s') (h' : KeepsPoll s' s'') : KeepsPoll s s'' :=
  ⟨h'.connected.trans h.connected, h'.settings.trans h.settings, h'.staleAfter.trans h.staleAfter⟩

theorem resume_polling (ht : s.tasks.get? t = some ⟨.polling d point, false⟩) :
    s.resume t outcome now clock = s.resumePolling t d point outcome now clock := by
  simp [resume, ht, advance]

theorem suspend_task {frame : Frame} (ht : s.tasks.get? t = some ⟨.polling d point, false⟩) :
    (s.suspend t frame).tasks.get? t = some ⟨frame, false⟩ := by
  simp [suspend, ht]

theorem endPolling_task : (s.endPolling t d).tasks.get? t = none := by
  simp [endPolling, endTask]

theorem setObserved_observed {state : ConnectionState} :
    (s.setObserved d state).observed d = (s.observed d).map (fun _ => state) := by
  simp only [observed, setObserved, updateDevice, AdministrativeStore.device_updateDevice, ↓reduceIte, Option.map_map]
  rfl

theorem observe_keepsPoll (state : ConnectionState) (now : Time) : KeepsPoll s (s.observe d state now) :=
  ⟨rfl, rfl, TelemetryState.connection_staleAfter _ _ _ _⟩

theorem scheduleRecovery_keepsPoll (immediate : Bool) : KeepsPoll s (s.scheduleRecovery d immediate) := by
  unfold scheduleRecovery
  split <;> exact ⟨rfl, rfl, rfl⟩

theorem scheduleRecovery_store {immediate : Bool} : (s.scheduleRecovery d immediate).store = s.store := by
  unfold scheduleRecovery
  split <;> rfl

theorem scheduleRecovery_backoffs {immediate : Bool} : (s.scheduleRecovery d immediate).backoffs = s.backoffs := by
  unfold scheduleRecovery
  split <;> rfl

theorem scheduleRecovery_scheduled {immediate : Bool} (h : (s.scheduleRecovery d immediate).recoveryWanted d) :
    ((s.scheduleRecovery d immediate).recoveries.get? d).isSome := by
  unfold scheduleRecovery at h ⊢
  split at h
  · next hskip =>
    simp only [Bool.or_eq_true, Bool.not_eq_true', Dict.contains] at hskip
    rw [if_pos (by simpa [Dict.contains] using hskip)]
    exact hskip.resolve_left (by simp [h])
  · next hskip =>
    rw [if_neg hskip]
    simp [spawn]

structure GivenUp (s : Service) (t : TaskId) (d : DeviceId) (s' : Service) : Prop where
  steady : KeepsPoll s s'
  task : s'.tasks.get? t = none
  observed : s'.observed d = (s.observed d).map (fun _ => .backoff)
  backoffs : s'.backoffs = s.backoffs
  scheduled : s'.recoveryWanted d → (s'.recoveries.get? d).isSome

theorem pollEnd_gives_up (now : Time)
    (h : (!s.adapter.isConnected || s.settings.reconnectAfter ≤ clock - poll.lastValid) = true) :
    GivenUp s t d (s.pollEnd t d poll now clock) := by
  unfold pollEnd
  rw [if_pos h]
  constructor
  · have hkeeps := (observe_keepsPoll (s := s.noteError .deviceReadFailed) (d := d) .backoff now).trans
      (scheduleRecovery_keepsPoll (d := d) false)
    exact ⟨hkeeps.connected, hkeeps.settings, hkeeps.staleAfter⟩
  · exact endPolling_task
  · refine Eq.trans ?_ (setObserved_observed (s := s))
    exact congrArg (fun S : AdministrativeStore => (S.device d).map DeviceRow.observedState) scheduleRecovery_store
  · exact scheduleRecovery_backoffs
  · exact scheduleRecovery_scheduled (s := (s.noteError .deviceReadFailed).observe d .backoff now)

structure GoesOn (s : Service) (t : TaskId) (d : DeviceId) (poll : PollState) (s' : Service) : Prop where
  steady : KeepsPoll s s'
  task : s'.tasks.get? t = some ⟨.polling d (.sleeping poll), false⟩
  observed : s'.observed d = s.observed d
  backoffs : s'.backoffs = s.backoffs

theorem pollEnd_goes_on (now : Time)
    (h : (!s.adapter.isConnected || s.settings.reconnectAfter ≤ clock - poll.lastValid) = false)
    (hc : s.connectedDevice = some d) (ht : s.tasks.get? t = some ⟨.polling d point, false⟩) :
    GoesOn s t d poll (s.pollEnd t d poll now clock) := by
  rw [pollEnd, if_neg (Bool.eq_false_iff.mp h), pollNext, if_pos hc]
  exact ⟨⟨rfl, rfl, rfl⟩, suspend_task ht, rfl, rfl⟩

def counted (s : Service) (d : DeviceId) (poll : PollState) (now : Time) : Service :=
  if poll.failures ≠ 0 ∧ s.settings.degradedAfter ≤ poll.failures then s.observe d .degraded now else s

def countedPoll (poll : PollState) (clock : Time) : PollState :=
  if poll.failures = 0 then poll else { poll with stableSince := clock }

theorem pollCounted_eq : s.pollCounted t d poll now clock =
    (s.counted d poll now).pollEnd t d (countedPoll poll clock) now clock := by
  unfold pollCounted counted countedPoll
  by_cases hf : poll.failures = 0
  · simp [hf]
  · by_cases hd : s.settings.degradedAfter ≤ poll.failures <;> simp [hf, hd]

theorem countedPoll_lastValid : (countedPoll poll clock).lastValid = poll.lastValid := by
  unfold countedPoll
  split <;> rfl

theorem counted_keepsPoll (poll : PollState) (now : Time) : KeepsPoll s (s.counted d poll now) := by
  unfold counted
  split
  · exact observe_keepsPoll .degraded now
  · exact .refl s

theorem counted_same (poll : PollState) (now : Time) :
    (s.counted d poll now).tasks = s.tasks ∧ (s.counted d poll now).backoffs = s.backoffs ∧
    (s.counted d poll now).adapter = s.adapter := by
  unfold counted
  split <;> exact ⟨rfl, rfl, rfl⟩

theorem counted_observed {state : ConnectionState} (poll : PollState) (now : Time) (h : s.observed d = some state) :
    (s.counted d poll now).observed d =
    some (if poll.failures ≠ 0 ∧ s.settings.degradedAfter ≤ poll.failures then .degraded else state) := by
  unfold counted
  split
  · exact (setObserved_observed (s := s)).trans (by rw [h]; rfl)
  · exact h

structure Cycled (s : Service) (t : TaskId) (d : DeviceId) (gives : Bool) (poll : PollState) (state : ConnectionState)
    (s' : Service) : Prop where
  steady : KeepsPoll s s'
  task : s'.tasks.get? t = if gives then none else some ⟨.polling d (.sleeping poll), false⟩
  observed : s'.observed d = some (if gives then .backoff else state)
  scheduled : gives → s'.recoveryWanted d → (s'.recoveries.get? d).isSome

theorem pollCounted_cycled {state : ConnectionState} {gives : Bool} (poll : PollState) (now : Time)
    (hc : s.connectedDevice = some d)
    (ht : s.tasks.get? t = some ⟨.polling d point, false⟩) (ho : s.observed d = some state)
    (hg : gives = (!s.adapter.isConnected || decide (s.settings.reconnectAfter ≤ clock - poll.lastValid))) :
    Cycled s t d gives (countedPoll poll clock)
      (if poll.failures ≠ 0 ∧ s.settings.degradedAfter ≤ poll.failures then .degraded else state)
      (s.pollCounted t d poll now clock) ∧ (s.pollCounted t d poll now clock).backoffs = s.backoffs := by
  rw [pollCounted_eq]
  obtain ⟨htasks, hback, hadapter⟩ := counted_same (s := s) (d := d) poll now
  have hkeeps := counted_keepsPoll (s := s) (d := d) poll now
  have hobs := counted_observed poll now ho
  have hcond : (!(s.counted d poll now).adapter.isConnected || decide ((s.counted d poll now).settings.reconnectAfter ≤
      clock - (countedPoll poll clock).lastValid)) = gives := by
    rw [hadapter, hkeeps.settings, countedPoll_lastValid, hg]
  cases gives with
  | true =>
    have h := pollEnd_gives_up (t := t) (d := d) now hcond
    refine ⟨⟨hkeeps.trans h.steady, h.task, ?_, fun _ => h.scheduled⟩, h.backoffs.trans hback⟩
    rw [h.observed, hobs]
    rfl
  | false =>
    have h := pollEnd_goes_on now hcond (hkeeps.connected.trans hc) (htasks ▸ ht)
    refine ⟨⟨hkeeps.trans h.steady, h.task, ?_, fun hf => absurd hf (by decide)⟩, h.backoffs.trans hback⟩
    rw [h.observed, hobs]
    rfl

section Cycle

variable {p : PollStart} {cs : List PollCycle} {read : Option DeviceSnapshot} {link : Link} {snapshot : DeviceSnapshot}

/-- The poll of a run is between two cycles, with the locals and the stored state that its cycles leave. -/
structure Follows (s : Service) (t : TaskId) (d : DeviceId) (p : PollStart) (cs : List PollCycle) (point : PollPoint) :
    Prop where
  connected : s.connectedDevice = some d
  settings : s.settings = p.settings
  staleAfter : s.telemetry.staleAfter = p.staleAfter
  task : s.tasks.get? t = some ⟨.polling d point, false⟩
  observed : s.observed d = some (p.stateAfter cs)

structure CycleDone (s : Service) (t : TaskId) (d : DeviceId) (p : PollStart) (c : PollCycle) (cs : List PollCycle)
    (s' : Service) : Prop where
  cycled : Cycled s t d (p.givesUp c cs) (p.locals (c :: cs)) (p.stateAfter (c :: cs)) s'
  backoff : s'.backoffs.get? d = if p.resets c cs then some ⟨0⟩ else s.backoffs.get? d

theorem givesUp_eq {c : PollCycle} (hs : s.settings = p.settings) (hconn : c.connected = s.adapter.isConnected)
    {poll : PollState} (hv : poll.lastValid = p.lastValid (c :: cs)) : p.givesUp c cs =
      (!s.adapter.isConnected || decide (s.settings.reconnectAfter ≤ c.clock - poll.lastValid)) := by
  rw [PollStart.givesUp, hconn, hs, hv]

theorem pollFailed_done (read : Option DeviceSnapshot) (now clock : Time) (h : Follows s t d p cs point)
    (hi : p.valid ⟨read, now, clock, s.adapter.isConnected⟩ cs = false) :
    CycleDone s t d p ⟨read, now, clock, s.adapter.isConnected⟩ cs (s.pollFailed t d (p.locals cs) now clock) := by
  have hl := PollStart.locals_invalid hi
  obtain ⟨hcycled, hback⟩ := pollCounted_cycled { p.locals cs with failures := p.invalidRun cs + 1 } now
    h.connected h.task h.observed (givesUp_eq h.settings rfl (congrArg PollState.lastValid hl).symm)
  constructor
  · have hstate := PollStart.stateAfter_invalid hi
    have hpoll : countedPoll { p.locals cs with failures := p.invalidRun cs + 1 } clock =
        p.locals (⟨read, now, clock, s.adapter.isConnected⟩ :: cs) := by
      rw [hl]
      simp [countedPoll, PollStart.locals]
    rw [hpoll, h.settings] at hcycled
    rw [hstate]
    simp only [ne_eq, Nat.add_one_ne_zero, not_false_eq_true, true_and] at hcycled
    exact hcycled
  · rw [PollStart.resets, hi]
    exact congrArg (fun b => b.get? d) hback

theorem release_follows (h : Follows s t d p cs point) : Follows s.release t d p cs point :=
  ⟨h.connected, h.settings, h.staleAfter, h.task, h.observed⟩

theorem record_follows (snapshot : DeviceSnapshot) (link : Link) (now : Time) (h : Follows s t d p cs point) :
    Follows (s.record d snapshot link now) t d p cs point :=
  ⟨h.connected, h.settings, (TelemetryState.record_staleAfter _ _ _ _).trans h.staleAfter, h.task, h.observed⟩

def settled (s : Service) (d : DeviceId) (poll : PollState) (clock : Time) : Service :=
  if s.settings.stableAfter ≤ clock - poll.stableSince then s.resetBackoff d else s

theorem settled_backoff : (s.settled d poll clock).backoffs.get? d =
    if s.settings.stableAfter ≤ clock - poll.stableSince then some ⟨0⟩ else s.backoffs.get? d := by
  unfold settled
  split
  · simp [resetBackoff, BackoffPolicy.reset]
  · rfl

theorem settled_same (poll : PollState) (clock : Time) :
    (s.settled d poll clock).tasks = s.tasks ∧ (s.settled d poll clock).adapter = s.adapter ∧
    (s.settled d poll clock).store = s.store ∧ KeepsPoll s (s.settled d poll clock) := by
  unfold settled
  split <;> exact ⟨rfl, rfl, rfl, ⟨rfl, rfl, rfl⟩⟩

theorem Cycled.of_keepsPoll {s₁ : Service} {gives : Bool} {state : ConnectionState}
    (h : Cycled s₁ t d gives poll state s')
    (hs : KeepsPoll s s₁) : Cycled s t d gives poll state s' :=
  ⟨hs.trans h.steady, h.task, h.observed, h.scheduled⟩

theorem pollRead_done (h : Follows s t d p cs point) :
    CycleDone s t d p ⟨some snapshot, now, clock, s.adapter.isConnected⟩ cs
      (s.pollRead t d (p.locals cs) link snapshot now clock) := by
  have hr := record_follows snapshot link now (release_follows h)
  have hadv : (s.release.record d snapshot link now).advances (p.locals cs) snapshot now =
      p.valid ⟨some snapshot, now, clock, s.adapter.isConnected⟩ cs := by
    rw [advances, hr.staleAfter]
    rfl
  unfold pollRead
  dsimp only
  rw [hadv]
  have hkeeps : KeepsPoll s (s.release.record d snapshot link now) :=
    ⟨rfl, rfl, TelemetryState.record_staleAfter _ _ _ _⟩
  generalize hv : p.valid ⟨some snapshot, now, clock, s.adapter.isConnected⟩ cs = v
  cases v with
  | false =>
    obtain ⟨hcycled, hback⟩ := pollFailed_done _ now clock hr hv
    exact ⟨hcycled.of_keepsPoll hkeeps, hback⟩
  | true =>
    have hl := PollStart.locals_valid hv
    generalize hs₂ : (s.release.record d snapshot link now).setObserved d .polling = s₂
    have ho : s₂.observed d = some .polling := by
      rw [← hs₂, setObserved_observed, hr.observed]
      rfl
    have hkeeps₂ : KeepsPoll s s₂ := by
      rw [← hs₂]
      exact ⟨hkeeps.connected, hkeeps.settings, hkeeps.staleAfter⟩
    have htasks₂ : s₂.tasks = s.tasks := hs₂ ▸ rfl
    have hadapter₂ : s₂.adapter = s.adapter := hs₂ ▸ rfl
    have hback₂ : s₂.backoffs = s.backoffs := hs₂ ▸ rfl
    obtain ⟨htasks, hadapter, hstore, hsettled⟩ := settled_same (s := s₂) (d := d) (p.locals cs) clock
    have hkeeps₃ := hkeeps₂.trans hsettled
    obtain ⟨hcycled, hback⟩ := pollCounted_cycled (t := t)
      ⟨0, clock, p.lastInvalid cs, some snapshot.observedAt⟩ now (hkeeps₃.connected.trans h.connected)
      ((congrArg (fun T => T.get? t) (htasks.trans htasks₂)).trans h.task)
      ((congrArg (fun S : AdministrativeStore => (S.device d).map DeviceRow.observedState) hstore).trans ho)
      (givesUp_eq (hkeeps₃.settings.trans h.settings) (congrArg Adapter.isConnected (hadapter.trans hadapter₂)).symm
        (congrArg PollState.lastValid hl).symm)
    constructor
    · rw [hl, PollStart.stateAfter_valid hv]
      exact hcycled.of_keepsPoll hkeeps₃
    · refine (congrArg (fun b => b.get? d) hback).trans ?_
      rw [settled_backoff, hkeeps₂.settings, h.settings, hback₂, PollStart.resets, hv]
      by_cases hstable : p.settings.stableAfter ≤ clock - p.lastInvalid cs <;> simp [PollStart.locals, hstable]

end Cycle

end Service

def PollPoint.locals : PollPoint → Option PollState
  | .starting => none
  | .sleeping poll | .lock poll | .reading poll _ => some poll

namespace PollRun

open Service

variable {r r' : PollRun} {c : PollCycle} {cs : List PollCycle} {outcome : Outcome} {now clock : Time}

def Lasting (p : PollStart) (cs : List PollCycle) : Prop := ∀ c cs', c :: cs' <:+ cs → p.givesUp c cs' = false

theorem Lasting.cons {p : PollStart} (h : Lasting p cs) (hc : p.givesUp c cs = false) : Lasting p (c :: cs) := by
  intro c' cs' hs
  rcases List.suffix_cons_iff.mp hs with he | hs
  · obtain ⟨rfl, rfl⟩ := List.cons.inj he
    exact hc
  · exact h c' cs' hs

structure Going (r : PollRun) (point : PollPoint) : Prop where
  follows : Follows r.service r.task r.device r.start r.cycles point
  locals : point.locals = some (r.start.locals r.cycles)
  lasting : Lasting r.start r.cycles

structure Over (r : PollRun) : Prop where
  task : r.service.tasks.get? r.task = none
  last : ∃ c cs, r.cycles = c :: cs ∧ r.start.givesUp c cs ∧ Lasting r.start cs
  observed : r.service.observed r.device = some .backoff
  scheduled : r.service.recoveryWanted r.device → (r.service.recoveries.get? r.device).isSome

def Followed (r : PollRun) : Prop := (∃ point, r.Going point) ∨ r.Over

theorem Going.point_eq {point : PollPoint} (h : r.Going point) : r.point = some point := by
  rw [PollRun.point, h.follows.task]

theorem Over.point_eq (h : r.Over) : r.point = none := by
  rw [PollRun.point, h.task]

theorem initial_followed (h : r.Initial) : r.Followed := by
  obtain ⟨s, now, ht, hc, ho, hstart, hr, hcycles⟩ := h
  rw [resume_polling ht, resumePolling, Option.some.injEq, pollNext, if_pos hc] at hr
  refine .inl ⟨.sleeping ⟨0, r.start.clock, r.start.clock, s.telemetry.observedAt r.device⟩, ⟨?_, ?_, ?_⟩⟩
  · rw [← hr, hcycles]
    exact ⟨hc, by rw [hstart]; rfl, by rw [hstart]; rfl, suspend_task ht, ho⟩
  · rw [hcycles, hstart]
    rfl
  · rw [hcycles]
    intro c cs hs
    simp at hs

theorem other_followed {s : Service} (h : r.Followed) (hs : r.step (.other s) = some r') : r'.Followed := by
  obtain ⟨⟨hp, ht, hc, ho, hset, hstale⟩, rfl⟩ := Option.ite_none_right_eq_some.mp hs |>.imp_right Option.some.inj
  rcases h with ⟨point, h⟩ | h
  · refine .inl ⟨point, ⟨?_, h.locals, h.lasting⟩⟩
    exact ⟨hc.trans h.follows.connected, hset.trans h.follows.settings, hstale.trans h.follows.staleAfter,
      ht.trans h.follows.task, ho.trans h.follows.observed⟩
  · rw [h.point_eq] at hp
    cases hp

inductive Advanced (r r' : PollRun) : Prop
  | waited (hc : r'.cycles = r.cycles) (hb : r'.service.backoffs = r.service.backoffs) : Advanced r r'
  | cycled (c : PollCycle) (hc : r'.cycles = c :: r.cycles)
      (hb : r'.service.backoffs.get? r.device =
        if r.start.resets c r.cycles then some ⟨0⟩ else r.service.backoffs.get? r.device) : Advanced r r'

theorem cycle_followed {point : PollPoint} {s : Service} (h : r.Going point)
    (hd : CycleDone r.service r.task r.device r.start c r.cycles s) :
    Followed { r with service := s, cycles := c :: r.cycles } ∧
    Advanced r { r with service := s, cycles := c :: r.cycles } := by
  refine ⟨?_, .cycled c rfl hd.backoff⟩
  have hcyc := hd.cycled
  cases hg : r.start.givesUp c r.cycles with
  | true =>
    rw [hg] at hcyc
    exact .inr ⟨hcyc.task, ⟨c, r.cycles, rfl, hg, h.lasting⟩, hcyc.observed, hcyc.scheduled rfl⟩
  | false =>
    rw [hg] at hcyc
    refine .inl ⟨_, ⟨⟨?_, ?_, ?_, hcyc.task, hcyc.observed⟩, rfl, h.lasting.cons hg⟩⟩
    · exact hcyc.steady.connected.trans h.follows.connected
    · exact hcyc.steady.settings.trans h.follows.settings
    · exact hcyc.steady.staleAfter.trans h.follows.staleAfter

theorem wait_followed {point : PollPoint} {s : Service} (point' : PollPoint) (h : r.Going point)
    (hl : point'.locals = point.locals)
    (hs : KeepsPoll r.service s) (ht : s.tasks.get? r.task = some ⟨.polling r.device point', false⟩)
    (hst : s.store = r.service.store) (hb : s.backoffs = r.service.backoffs) :
    Followed { r with service := s } ∧ Advanced r { r with service := s } := by
  refine ⟨.inl ⟨point', ⟨⟨?_, ?_, ?_, ht, ?_⟩, hl.trans h.locals, h.lasting⟩⟩, .waited rfl hb⟩
  · exact hs.connected.trans h.follows.connected
  · exact hs.settings.trans h.follows.settings
  · exact hs.staleAfter.trans h.follows.staleAfter
  · exact (congrArg (fun S : AdministrativeStore => (S.device r.device).map DeviceRow.observedState) hst).trans
      h.follows.observed

theorem resume_followed (h : r.Followed) (hs : r.step (.resume outcome now clock) = some r') :
    r'.Followed ∧ Advanced r r' := by
  rcases h with ⟨point, h⟩ | h
  · have hl := h.locals
    simp only [step, h.point_eq, resume_polling h.follows.task] at hs
    cases point with
    | starting => cases hl
    | sleeping poll =>
      cases outcome <;> try simp [resumePolling] at hs
      subst hs
      rw [if_pos h.follows.connected]
      exact wait_followed (.lock poll) h rfl ⟨rfl, rfl, rfl⟩ (suspend_task h.follows.task) rfl rfl
    | lock poll =>
      obtain rfl := Option.some.inj hl
      cases outcome <;> try simp [resumePolling] at hs
      obtain ⟨-, rfl⟩ := hs
      cases hc : r.service.adapter.client with
      | some link =>
        simp only [pollLocked, hc, readOf]
        exact wait_followed (.reading (r.start.locals r.cycles) link) h rfl ⟨rfl, rfl, rfl⟩
          (suspend_task (s := r.service.acquire r.task) h.follows.task) rfl rfl
      | none =>
        simp only [pollLocked, hc, readOf]
        exact cycle_followed h (pollFailed_done none now clock h.follows rfl)
    | reading poll link =>
      obtain rfl := Option.some.inj hl
      cases outcome <;> try simp [resumePolling] at hs
      · subst hs
        exact cycle_followed h (pollRead_done h.follows)
      · subst hs
        have hd := pollFailed_done none now clock (release_follows h.follows) rfl
        exact cycle_followed h ⟨hd.cycled.of_keepsPoll ⟨rfl, rfl, rfl⟩, hd.backoff⟩
  · simp only [step, h.point_eq] at hs
    cases hs

theorem followed (h : Reachable Initial step r) : r.Followed := by
  refine h.invariant (fun _ => initial_followed) fun r a r' hr _ hs => ?_
  cases a with
  | resume outcome now clock => exact (resume_followed hr hs).1
  | other s => exact other_followed hr hs

theorem poll_loop_law (h : Reachable Initial step r) :
    (r.point.isSome → (∀ c cs, c :: cs <:+ r.cycles → r.start.givesUp c cs = false) ∧
      r.service.observed r.device = some (r.start.stateAfter r.cycles)) ∧
    (r.point = none → ∃ c cs, r.cycles = c :: cs ∧ r.start.givesUp c cs ∧
      (∀ c' cs', c' :: cs' <:+ cs → r.start.givesUp c' cs' = false) ∧ r.service.observed r.device = some .backoff ∧
      (r.service.recoveryWanted r.device → (r.service.recoveries.get? r.device).isSome)) ∧
    ∀ outcome now clock r', r.step (.resume outcome now clock) = some r' →
      (r'.cycles = r.cycles ∧ r'.service.backoffs = r.service.backoffs) ∨
      ∃ c, r'.cycles = c :: r.cycles ∧ r'.service.backoffs.get? r.device =
        if r.start.resets c r.cycles then some ⟨0⟩ else r.service.backoffs.get? r.device := by
  have hf := followed h
  refine ⟨fun hp => ?_, fun hp => ?_, fun outcome now clock r' hs => ?_⟩
  · rcases hf with ⟨point, hg⟩ | ho
    · exact ⟨hg.lasting, hg.follows.observed⟩
    · rw [ho.point_eq] at hp
      cases hp
  · rcases hf with ⟨point, hg⟩ | ho
    · rw [hg.point_eq] at hp
      cases hp
    · obtain ⟨c, cs, hcycles, hgives, hlast⟩ := ho.last
      exact ⟨c, cs, hcycles, hgives, hlast, ho.observed, ho.scheduled⟩
  · rcases (resume_followed hf hs).2 with ⟨hc, hb⟩ | ⟨c, hc, hb⟩
    · exact .inl ⟨hc, hb⟩
    · exact .inr ⟨c, hc, hb⟩

def firstPoll : Option PollRun :=
  (replay Service.step firstSession connectFirst).bind fun s => (s.resume 4 .resumed 0 0).map fun s' =>
    ⟨4, "igrill-v202-a", ⟨0, s.telemetry.observedAt "igrill-v202-a", s.telemetry.staleAfter, s.settings⟩, s', []⟩

def failedCycle (at_ : Time) : List PollAction :=
  [.resume .resumed at_ at_, .resume .resumed at_ at_, .resume (.raised ⟨"AdapterError", "read failed"⟩) at_ at_]

theorem firstPoll_initial {r : PollRun} (h : firstPoll = some r) : r.Initial := by
  obtain ⟨s, hs, h⟩ := Option.bind_eq_some_iff.mp h
  obtain ⟨s', hs', rfl⟩ := Option.map_eq_some_iff.mp h
  have hrun : (replay Service.step firstSession connectFirst).map (fun s => (s.tasks.get? 4, s.connectedDevice,
      s.observed "igrill-v202-a")) =
      some (some ⟨.polling "igrill-v202-a" .starting, false⟩, some "igrill-v202-a", some .polling) := by decide +kernel
  rw [hs, Option.map_some, Option.some.injEq, Prod.mk.injEq, Prod.mk.injEq] at hrun
  exact ⟨s, 0, hrun.1, hrun.2.1, hrun.2.2, rfl, hs', rfl⟩

theorem poll_loop_law_degraded : ∃ r, (∃ r₀, firstPoll = some r₀ ∧
    replay step r₀ (failedCycle 1000000 ++ failedCycle 2000000 ++ failedCycle 3000000) = some r) ∧
    (∀ c cs, c :: cs <:+ r.cycles → r.start.givesUp c cs = false) ∧ r.service.observed r.device = some .degraded := by
  have hrun : (firstPoll.bind fun r =>
      replay step r (failedCycle 1000000 ++ failedCycle 2000000 ++ failedCycle 3000000)).map (fun r =>
      (r.point.isSome, r.start.stateAfter r.cycles)) = some (true, .degraded) := by decide +kernel
  obtain ⟨r, hr, hf⟩ := Option.map_eq_some_iff.mp hrun
  obtain ⟨r₀, hr₀, hr⟩ := Option.bind_eq_some_iff.mp hr
  obtain ⟨hp, hstate⟩ := Prod.mk.inj hf
  obtain ⟨hgoing, -, -⟩ := poll_loop_law (.of_replay (.init (firstPoll_initial hr₀)) hr)
  obtain ⟨hlast, hobs⟩ := hgoing hp
  exact ⟨r, ⟨r₀, hr₀, hr⟩, hlast, hobs.trans (congrArg some hstate)⟩

end PollRun

end PitbluCore
