import PitbluCore.MqttAvailability

namespace PitbluCore

open Library

def PublisherPhase.state : PublisherPhase → PublisherState
  | .idle => .starting
  | .opening => .connecting
  | .connected | .closing _ | .leaving _ => .connected
  | .sleeping => .backoff
  | .ended => .stopped

namespace MqttPublisher

variable {p q : MqttPublisher}

/-- The failures that the next delay goes by: those since a connection last stayed up, and the one that ended it. -/
def streak (stableAfter : ℚ) : List (Option ℚ) → ℕ
  | [] => 0
  | up :: outages => if up.any (fun d => stableAfter ≤ d) then 1 else streak stableAfter outages + 1

structure Reported (policy : JitteredBackoffPolicy) (stableAfter : ℚ) (p : MqttPublisher) : Prop where
  state : p.state = p.phase.state
  failures : p.failures = p.outages.length
  stable : p.stableAfter = stableAfter
  backoff : p.backoff = { policy with attempt := streak stableAfter p.outages }
  code : p.errorCode = none ∨ p.errorCode = some "mqtt_connection_failed" ∧ p.outages ≠ []
  retry : ∀ d, p.retryIn = some d → (p.state = .backoff ∨ p.state = .connecting) ∧ p.errorCode.isSome = true ∧
    policy.Offers (streak stableAfter p.outages - 1) d
  waits : p.state = .backoff → p.retryIn.isSome = true
  clear : p.state = .connected → p.errorCode = none

def Draws (_ : MqttPublisher) : PublisherAction → Prop
  | .refused _ randomValue | .left _ randomValue | .leftRaising _ randomValue => JitteredBackoffPolicy.Drawn randomValue
  | _ => True

section Reported

variable {policy : JitteredBackoffPolicy} {stableAfter : ℚ}

theorem Reported.congr (h : Reported policy stableAfter p) (hphase : q.phase.state = p.phase.state)
    (hs : q.status = p.status) (hstate : q.state = p.state) (ho : q.outages = p.outages) (hb : q.backoff = p.backoff)
    (ha : q.stableAfter = p.stableAfter) : Reported policy stableAfter q := by
  simp only [status, MqttStatus.mk.injEq] at hs
  obtain ⟨-, hf, hcode, hretry⟩ := hs
  refine ⟨?_, ?_, ?_, ?_, ?_, ?_, ?_, ?_⟩
  · rw [hstate, hphase, h.state]
  · rw [hf, ho, h.failures]
  · rw [ha, h.stable]
  · rw [hb, ho, h.backoff]
  · rw [hcode, ho]
    exact h.code
  · rw [hretry, hstate, hcode, ho]
    exact h.retry
  · rw [hstate, hretry]
    exact h.waits
  · rw [hstate, hcode]
    exact h.clear

theorem reported_fail {clock randomValue : ℚ} (h : Reported policy stableAfter p)
    (hr : JitteredBackoffPolicy.Drawn randomValue) : Reported policy stableAfter (p.fail clock randomValue) := by
  generalize hup : p.connectedAt.map (fun t => clock - t) = up
  generalize hb : (if up.any (fun d => p.stableAfter ≤ d) then p.backoff.reset else p.backoff) = backoff
  have hbackoff : ∃ n, backoff = { policy with attempt := n } ∧ n + 1 = streak stableAfter (up :: p.outages) := by
    rw [← hb, streak, h.stable, h.backoff]
    split
    · exact ⟨0, rfl, rfl⟩
    · exact ⟨_, rfl, rfl⟩
  obtain ⟨n, rfl, hn⟩ := hbackoff
  have hfail : p.fail clock randomValue = { p with
      failures := p.failures + 1
      errorCode := some "mqtt_connection_failed"
      state := .backoff
      backoff := { policy with attempt := n + 1 }
      retryIn := some (({ policy with attempt := n } : JitteredBackoffPolicy).nextDelay randomValue).1
      phase := .sleeping
      outages := up :: p.outages } := by
    simp only [fail, hup, hb]
    rfl
  rw [hfail]
  refine ⟨rfl, congrArg (· + 1) h.failures, h.stable, hn ▸ rfl, .inr ⟨rfl, List.cons_ne_nil _ _⟩, fun d hd => ?_,
    fun _ => rfl, fun hs => by cases hs⟩
  refine ⟨.inl rfl, rfl, ?_⟩
  cases hd
  dsimp only
  rw [← hn, Nat.add_sub_cancel]
  exact JitteredBackoffPolicy.nextDelay_offers (b := { policy with attempt := n }) hr

theorem reported_stop (h : Reported policy stableAfter p) : Reported policy stableAfter p.stop :=
  ⟨rfl, h.failures, h.stable, h.backoff, h.code, fun _ hd => (by cases hd), fun hs => (by cases hs),
    fun hs => (by cases hs)⟩

theorem reported_open (now : Time) (h : Reported policy stableAfter p) :
    Reported policy stableAfter (p.openConnection now) :=
  ⟨rfl, h.failures, h.stable, h.backoff, h.code, fun d hd => ⟨.inr rfl, (h.retry d hd).2⟩, fun hs => (by cases hs),
    fun hs => (by cases hs)⟩

theorem reported_entered (clock : ℚ) (h : Reported policy stableAfter p) :
    Reported policy stableAfter (p.entered clock) :=
  ⟨rfl, h.failures, h.stable, h.backoff, .inl rfl, fun _ hd => (by cases hd), fun hs => (by cases hs), fun _ => rfl⟩

theorem reported_resume {run : MqttRun} (h : Reported policy stableAfter p) (hp : p.phase = .connected) :
    Reported policy stableAfter (p.resume run) := by
  unfold resume
  dsimp only
  split <;> split <;> exact h.congr (by simp [hp, write, PublisherPhase.state]) rfl rfl rfl rfl rfl

theorem reported_leave {departure : Departure} {clock randomValue : ℚ} (h : Reported policy stableAfter p)
    (hr : JitteredBackoffPolicy.Drawn randomValue) :
    Reported policy stableAfter (p.leave departure clock randomValue) := by
  cases departure with
  | returned | cancelled => exact reported_stop h
  | failed => exact reported_fail h hr

theorem reported_step {a : PublisherAction} (h : Reported policy stableAfter p) (hr : Draws p a)
    (hs : p.step a = some q) :
    Reported policy stableAfter q := by
  cases a with
  | publish event | forget d | lose =>
    cases hs
    exact h.congr rfl rfl rfl rfl rfl rfl
  | start now | woken now =>
    obtain ⟨-, hs⟩ := Option.ite_none_right_eq_some.mp hs
    cases hs
    exact reported_open now h
  | opened now clock =>
    obtain ⟨-, hs⟩ := Option.ite_none_right_eq_some.mp hs
    obtain ⟨run, -, rfl⟩ := Option.map_eq_some_iff.mp hs
    exact reported_resume (reported_entered clock h) rfl
  | refused clock randomValue =>
    obtain ⟨-, hs⟩ := Option.ite_none_right_eq_some.mp hs
    cases hs
    exact reported_fail h hr
  | acknowledged now =>
    obtain ⟨⟨hp, -⟩, hs⟩ := Option.ite_none_right_eq_some.mp hs
    obtain ⟨run, -, rfl⟩ := Option.map_eq_some_iff.mp hs
    exact reported_resume h hp
  | taken now | timedOut now =>
    obtain ⟨hp, hs⟩ := Option.ite_none_right_eq_some.mp hs
    obtain ⟨run, -, rfl⟩ := Option.map_eq_some_iff.mp hs
    exact reported_resume h hp
  | raised now =>
    obtain ⟨⟨hp, -⟩, hs⟩ := Option.ite_none_right_eq_some.mp hs
    cases hs
    exact h.congr (by simp [interrupt, hp, PublisherPhase.state]) rfl rfl rfl rfl rfl
  | cancelled now =>
    simp only [step] at hs
    split at hs <;> cases hs
    · exact reported_stop h
    · exact reported_stop h
    · exact reported_stop h
    · rename_i hp
      exact h.congr (by simp [interrupt, hp, PublisherPhase.state]) rfl rfl rfl rfl rfl
    · rename_i hp
      exact h.congr (by simp [depart, hp, PublisherPhase.state]) rfl rfl rfl rfl rfl
  | closed =>
    simp only [step] at hs
    split at hs <;> cases hs
    rename_i hp
    exact h.congr (by simp [depart, hp, PublisherPhase.state]) rfl rfl rfl rfl rfl
  | left clock randomValue =>
    simp only [step] at hs
    split at hs <;> cases hs
    exact reported_leave h hr
  | leftRaising clock randomValue =>
    simp only [step] at hs
    split at hs <;> cases hs
    exact reported_fail h hr
  | receive n =>
    obtain ⟨link, -, hs⟩ := Option.bind_eq_some_iff.mp hs
    split at hs <;> cases hs <;> exact h.congr rfl rfl rfl rfl rfl rfl
  | expire n =>
    obtain ⟨link, -, rfl⟩ := Option.map_eq_some_iff.mp hs
    exact h.congr rfl rfl rfl rfl rfl rfl

theorem reported_create (run : MqttRun) (h : policy.attempt = 0) :
    Reported policy stableAfter (create run stableAfter policy) := by
  refine ⟨rfl, rfl, rfl, ?_, .inl rfl, fun _ hd => (by cases hd), fun hs => (by cases hs), fun hs => (by cases hs)⟩
  change policy = { policy with attempt := 0 }
  rw [← h]

theorem status_reports {run : MqttRun} (hp : policy.attempt = 0)
    (h : Reaches (fun p => p = create run stableAfter policy) step Draws p) : Reported policy stableAfter p :=
  h.invariant (fun _ h0 => h0 ▸ reported_create run hp) (fun _ _ _ h hr hs => reported_step h hr hs)

theorem status_reports_refused : ∃ p, replay step smallPublisher [.start 0, .refused 0 (1 / 2), .woken 2,
      .refused 3 (1 / 2)] = some p ∧
    p.status = ⟨"backoff", 2, some "mqtt_connection_failed", some 4⟩ ∧ Reported .default 60 p := by
  have hrun : (replay step smallPublisher [.start 0, .refused 0 (1 / 2), .woken 2, .refused 3 (1 / 2)]).any
      (fun p => p.status = ⟨"backoff", 2, some "mqtt_connection_failed", some 4⟩) := by decide +kernel
  obtain ⟨p, hp, hm⟩ := (Option.any_eq_true _ _).mp hrun
  refine ⟨p, hp, by simpa using hm, status_reports rfl (.of_replay_guarded (.init rfl) ?_ hp)⟩
  have hr : JitteredBackoffPolicy.Drawn (1 / 2) := by constructor <;> norm_num
  simp only [List.forall_mem_cons]
  exact ⟨fun _ => trivial, fun _ => hr, fun _ => trivial, fun _ => hr, fun _ h => absurd h List.not_mem_nil⟩

end Reported

end MqttPublisher

end PitbluCore
