import PitbluCore.ServiceLiveness

namespace PitbluCore

open Library Relation

def Point.rank : Point → ℕ
  | .stoppingRecovery _ => 11
  | .stoppingPolling _ => 10
  | .lockDisconnect => 9
  | .disconnecting => 8
  | .releasing => 7
  | .lockConnect => 6
  | .discovering => 5
  | .releasingMissing => 4
  | .rediscovering => 3
  | .connecting _ => 2
  | .reading _ => 1

def Frame.rank : Frame → ℕ
  | .queued _ => 12
  | .procedure _ _ point => point.rank
  | .scan (.starting _) => 3
  | .scan (.lock _) => 2
  | .scan (.discovering _) => 1
  | _ => 0

namespace Service

variable {G : Guards} {s s' m : Service} {n id : OperationId} {t u : TaskId} {task k : Task}

section Ranks

variable {call : Call} {row : DeviceRow} {r : ℕ}

inductive Goes (t : TaskId) (call : Call) (r : ℕ) (s : Service) : Prop
  | awaits {k : Task} {row : DeviceRow} {point : Point} (hk : s.tasks.get? t = some k)
      (hf : k.frame = .procedure call row point) (hr : point.rank ≤ r) : Goes t call r s
  | left (hl : ¬ s.control.Live call.operation)
      (hf : ∀ k, s.tasks.get? t = some k → k.frame = .recovery call.device .sleeping) : Goes t call r s

theorem Goes.mono {r' : ℕ} (h : Goes t call r s) (hr : r ≤ r') : Goes t call r' s := by
  cases h with
  | awaits hk hf hp => exact .awaits hk hf (hp.trans hr)
  | left hl hf => exact .left hl hf

theorem goes_await (hk : s.tasks.get? t = some k) {point : Point} (hr : point.rank ≤ r) :
    Goes t call r (s.await t call row point) := .awaits (get?_suspend_self hk _) rfl hr

theorem not_live_markOperation {status : OperationStatus} (hs : status.pending = false) (error : Option ErrorCode)
    (now : Time) : ¬ (s.markOperation id status error now).control.Live id := by
  rintro ⟨r, hr, hid, hp⟩
  unfold markOperation at hr
  split at hr
  · rename_i hnone
    cases (show s.operations.get? id = some r from hr).symm.trans hnone
  · rename_i row hrow
    simp only [control, saveOperation, Dict.get?_set] at hr
    split at hr
    · cases hr
      cases hs.symm.trans hp
    · obtain rfl := Option.some.inj (hrow.symm.trans hr)
      exact absurd hid.symm (by assumption)

theorem live_scheduleEvent {id' : OperationId} (h : (s.scheduleEvent id').control.Live id) : s.control.Live id := by
  unfold scheduleEvent at h
  split at h <;> exact h

theorem ended_finish (failed : Bool) (now : Time) : ¬ (s.finish id failed now).control.Live id := by
  unfold finish
  split
  · exact fun h => not_live_markOperation rfl _ now (live_scheduleEvent h)
  · exact fun h => not_live_markOperation rfl _ now (live_scheduleEvent h)

theorem goes_endTask (h : ¬ s.control.Live call.operation) : Goes t call r (s.endTask t) :=
  .left h (fun _ hk => absurd rfl (get?_endTask hk).1)

theorem goes_endRecovery (h : ¬ s.control.Live call.operation) (e : DeviceId) : Goes t call r (s.endRecovery t e) :=
  .left h (fun _ hk => absurd rfl (get?_endTask hk).1)

theorem goes_leave (h : ¬ s.control.Live call.operation) (succeeded : Bool) :
    Goes t call r (s.leave t call succeeded) := by
  unfold leave recoverNext
  split
  · exact goes_endTask h
  · split
    · exact goes_endRecovery h _
    · split
      · exact .left h (fun k hk => frame_of_suspend hk)
      · exact goes_endRecovery h _

theorem goes_complete (now : Time) : Goes t call r (s.complete t call now) :=
  goes_leave (s := (s.finish call.operation false now).log _) (ended_finish (s := s) false now) true

theorem live_scheduleRecovery {e : DeviceId} {immediate : Bool} (h : (s.scheduleRecovery e immediate).control.Live id) :
    s.control.Live id := by
  unfold scheduleRecovery at h
  split at h <;> exact h

theorem goes_fail (stage : PitbluCore.Stage) (e : Failure) (now : Time) :
    Goes t call r (s.fail t call stage e now) := by
  unfold fail
  dsimp only
  refine goes_leave ?_ false
  split
  · exact fun h => ended_finish true now (live_scheduleRecovery h)
  · exact ended_finish true now

theorem goes_disconnectDevice (now : Time) : Goes t call r (s.disconnectDevice t call now) := goes_complete now

theorem goes_pollingStopped (hk : s.tasks.get? t = some k) (now : Time) :
    Goes t call 9 (s.pollingStopped t call row now) := by
  unfold pollingStopped
  split
  · exact goes_disconnectDevice now
  · exact goes_await hk le_rfl

theorem goes_haltPolling (hk : s.tasks.get? t = some k) (now : Time) :
    Goes t call 10 (s.haltPolling t call row now) := by
  unfold haltPolling
  split
  · rename_i u _
    obtain ⟨k', hk', -⟩ := Control.get?_cancel_of_some (c := s.control) (u := u) hk
    exact goes_await (s := s.stopPolling call.device u) hk' le_rfl
  · exact (goes_pollingStopped hk now).mono (by decide)

theorem goes_recoveryStopped (hk : s.tasks.get? t = some k) (now : Time) :
    Goes t call 10 (s.recoveryStopped t call row now) := by
  unfold recoveryStopped
  split
  · exact goes_haltPolling hk now
  · split
    · exact goes_complete now
    · exact goes_await (s := s.expectHeartbeat call.device now) hk (by decide)
  · exact goes_haltPolling (s := s.expectHeartbeat call.device now) hk now

theorem goes_beginProcedure (hk : s.tasks.get? t = some k) (now : Time) :
    Goes t call 11 (s.beginProcedure t call now) := by
  have hk' : (s.markRunning call.operation now).tasks.get? t = some k := by
    rw [show (s.markRunning call.operation now).tasks = s.tasks from markOperation_tasks _ _ _ _]
    exact hk
  unfold beginProcedure
  dsimp only
  generalize s.markRunning call.operation now = s at hk'
  split
  · exact goes_leave (ended_finish true now) false
  · split
    · rename_i u _
      obtain ⟨k'', hk'', -⟩ := Control.get?_cancel_of_some (c := s.control) (u := u) hk'
      exact goes_await (s := s.stopRecovery call.device u) hk'' le_rfl
    · exact (goes_recoveryStopped hk' now).mono (by decide)

theorem goes_readInitial (hk : s.tasks.get? t = some k) (now : Time) :
    Goes t call 1 (s.readInitial t call row now) := by
  unfold readInitial
  split
  · exact goes_await hk le_rfl
  · exact goes_fail _ _ now

theorem goes_connectTo (hk : s.tasks.get? t = some k) (candidate : DiscoveredDevice) (now : Time) :
    Goes t call 2 (s.connectTo t call row candidate now) := by
  unfold connectTo
  dsimp only
  split
  · exact (goes_readInitial (s := s.logConnect call.device candidate) hk now).mono (by decide)
  · split
    · exact goes_await (s := s.logConnect call.device candidate) hk le_rfl
    · exact goes_fail _ _ now

theorem goes_resolved (hk : s.tasks.get? t = some k) (candidate : DiscoveredDevice) (now : Time) :
    Goes t call 2 (s.resolved t call row candidate now) :=
  goes_connectTo (s := s.updateDevice _ _) hk candidate now

theorem goes_lockConnect (hk : s.tasks.get? t = some k) (now : Time) :
    Goes t call 5 (s.lockConnect t call row now) := by
  unfold lockConnect
  dsimp only
  split
  · exact (goes_connectTo (s := s.acquire t) hk _ now).mono (by decide)
  · exact goes_await (s := s.acquire t) hk le_rfl

theorem goes_discovered (hk : s.tasks.get? t = some k) (results : List Advertisement) (now : Time) :
    Goes t call 4 (s.discovered t call row results now) := by
  unfold discovered
  dsimp only
  split
  · exact goes_fail _ _ now
  · split
    · exact (goes_resolved (s := s.discover results) hk _ now).mono (by decide)
    · exact goes_await (s := s.discover results) hk le_rfl

theorem goes_rediscovered (hk : s.tasks.get? t = some k) (results : List Advertisement) (now : Time) :
    Goes t call 2 (s.rediscovered t call row results now) := by
  unfold rediscovered
  dsimp only
  split
  · exact goes_resolved (s := s.discover results) hk _ now
  · exact goes_fail _ _ now

theorem goes_disconnected (hk : s.tasks.get? t = some k) (now : Time) :
    Goes t call 7 (s.disconnected t call row now) := by
  unfold disconnected
  split
  · exact goes_disconnectDevice now
  · split
    · exact goes_await hk le_rfl
    · exact goes_await (s := s.release) hk (by decide)

theorem goes_resumeProcedure (hk : s.tasks.get? t = some k) {point : Point} {outcome : Outcome} {now : Time}
    (h : s.resumeProcedure t call row point outcome now = some s') : ∃ r < point.rank, Goes t call r s' := by
  unfold resumeProcedure at h
  split at h
  case h_1 =>
    split at h <;> cases h
    exact ⟨10, Nat.lt_succ_self 10, goes_recoveryStopped hk now⟩
  case h_2 =>
    split at h <;> cases h
    exact ⟨9, Nat.lt_succ_self 9, goes_pollingStopped hk now⟩
  case h_3 =>
    split at h <;> cases h
    exact ⟨8, by decide, goes_await (s := (s.acquire t).disconnectAdapter) hk le_rfl⟩
  case h_4 =>
    cases h
    exact ⟨7, by decide, goes_disconnected hk now⟩
  case h_5 =>
    cases h
    exact ⟨6, by decide, goes_await (s := s.release) hk le_rfl⟩
  case h_6 =>
    cases h
    exact ⟨0, by decide, goes_fail _ _ now⟩
  case h_7 =>
    split at h <;> cases h
    exact ⟨5, by decide, goes_lockConnect hk now⟩
  case h_8 =>
    cases h
    exact ⟨4, by decide, goes_discovered hk _ now⟩
  case h_9 =>
    cases h
    exact ⟨0, by decide, goes_fail _ _ now⟩
  case h_10 =>
    cases h
    refine ⟨3, by decide, ?_⟩
    split
    · exact goes_await hk le_rfl
    · exact goes_fail _ _ now
  case h_11 =>
    cases h
    exact ⟨0, by decide, goes_fail _ _ now⟩
  case h_12 =>
    cases h
    exact ⟨2, by decide, goes_rediscovered hk _ now⟩
  case h_13 =>
    cases h
    exact ⟨0, by decide, goes_fail _ _ now⟩
  case h_14 =>
    cases h
    refine ⟨1, Nat.lt_succ_self 1, goes_await (k := k) ?_ le_rfl⟩
    exact hk
  case h_15 =>
    cases h
    exact ⟨0, Nat.zero_lt_succ 1, goes_fail _ _ now⟩
  case h_16 =>
    cases h
    exact ⟨0, Nat.zero_lt_succ 0, goes_complete now⟩
  case h_17 =>
    cases h
    exact ⟨0, Nat.zero_lt_succ 0, goes_fail _ _ now⟩
  case h_18 => cases h

theorem goes_interruptProcedure {point : Point} {now : Time} (h : s.interruptProcedure t call point now = some s') :
    Goes t call 0 s' := by
  have hl : ∀ m : Service, ¬ (m.markInterrupted call.operation now).control.Live call.operation :=
    fun m => not_live_markOperation rfl _ now
  unfold interruptProcedure at h
  split at h <;> cases h
  split
  · exact goes_endRecovery (hl _) _
  · exact goes_endTask (hl _)

theorem frame_of_operation {f : Frame} (h : f.role.operation = some id) :
    (∃ call, f = .queued call ∧ call.operation = id) ∨
      (∃ call row point, f = .procedure call row point ∧ call.operation = id) ∨ ∃ point, f = .scan point ∧
      point.operation = id := by
  cases f with
  | queued call => exact .inl ⟨call, rfl, Option.some.inj h⟩
  | procedure call row point => exact .inr (.inl ⟨call, row, point, rfl, Option.some.inj h⟩)
  | scan point => exact .inr (.inr ⟨point, rfl, Option.some.inj h⟩)
  | _ => cases h

theorem lowers_resume (hc : s.Coherent) (hk : s.tasks.get? t = some k) (hop : k.frame.role.operation = some id)
    {outcome : Outcome} {now clock : Time} (hr : s.resume t outcome now clock = some s') :
    s.closing = true ∨ ¬ s'.control.Live id ∨
      ∃ k', s'.tasks.get? t = some k' ∧ k'.frame.role.operation = some id ∧ k'.frame.rank < k.frame.rank := by
  have hgoes : ∀ {call r}, Goes t call r s' → call.operation = id → r < k.frame.rank →
      ¬ s'.control.Live id ∨
        ∃ k', s'.tasks.get? t = some k' ∧ k'.frame.role.operation = some id ∧ k'.frame.rank < k.frame.rank := by
    rintro call r hg rfl hlt
    cases hg with
    | awaits hk' hf' hp => exact .inr ⟨_, hk', by rw [hf']; rfl, by rw [hf']; exact hp.trans_lt hlt⟩
    | left hl => exact .inl hl
  unfold resume at hr
  rw [hk] at hr
  dsimp only at hr
  rcases frame_of_operation hop with ⟨call, hf, hid⟩ | ⟨call, row, point, hf, hid⟩ | ⟨point, hf, hid⟩
  · cases hc' : k.cancelled with
    | true =>
      refine .inl (((hc.tasks t k hk).cancelled hc').resolve_right (fun ⟨d, hd⟩ => ?_))
      have hv : call.recovering = false := by simpa [Frame.Valid, hf] using (hc.tasks t k hk).valid
      simp [hf, Frame.role, Role.supports, Role.recovers, Role.polls, hv] at hd
    | false =>
      rw [hc', hf] at hr
      cases outcome with
      | resumed =>
        cases hr
        exact .inr (hgoes (goes_beginProcedure hk now) hid (by rw [hf]; exact Nat.lt_succ_self 11))
      | _ => cases hr
  · split at hr
    · rw [hf] at hr
      refine .inr (hgoes (goes_interruptProcedure hr) hid ?_)
      rw [hf]
      cases point <;> exact Nat.zero_lt_succ _
    · rw [hf] at hr
      obtain ⟨r, hlt, hg⟩ := goes_resumeProcedure hk hr
      exact .inr (hgoes hg hid (by rw [hf]; exact hlt))
  · cases hc' : k.cancelled with
    | true =>
      refine .inl (((hc.tasks t k hk).cancelled hc').resolve_right (fun ⟨d, hd⟩ => ?_))
      simp [hf, Frame.role, Role.supports, Role.recovers, Role.polls] at hd
    | false =>
      rw [hc', hf] at hr
      replace hr : s.resumeScan t point outcome now = some s' := by cases outcome <;> exact hr
      right
      unfold resumeScan at hr
      split at hr
      case h_1 operation =>
        cases hr
        have hk' : (s.markRunning operation now).tasks.get? t = some k := by
          rw [show (s.markRunning operation now).tasks = s.tasks from markOperation_tasks _ _ _ _]
          exact hk
        exact .inr ⟨_, get?_suspend_self hk' _, congrArg some hid, by rw [hf]; exact Nat.lt_succ_self 2⟩
      case h_2 operation =>
        split at hr <;> cases hr
        exact .inr ⟨_, get?_suspend_self (s := s.acquire t) hk _,
          congrArg some hid, by rw [hf]; exact Nat.lt_succ_self 1⟩
      case h_3 operation results =>
        cases hr
        obtain rfl : operation = id := hid
        exact .inl (fun h => ended_finish false now h)
      case h_4 operation _ =>
        cases hr
        obtain rfl : operation = id := hid
        exact .inl (fun h => ended_finish true now h)
      case h_5 => cases hr

end Ranks

section Locks

theorem lock_move (h : s.ioLock = none ∨ s.ioLock = some t) (hm : Move G t task n s s') :
    s'.ioLock = none ∨ s'.ioLock = some t := by
  cases hm with
  | quiet hq =>
    have hl : s'.ioLock = s.ioLock := congrArg Control.ioLock hq.control
    rwa [hl]
  | acquire => exact .inr rfl
  | release | releaseAdapter | removeConnected => exact .inl rfl
  | mark _ status error now => rwa [(aside_markOperation _ status error now).ioLock]
  | event id => rwa [(aside_scheduleEvent id).ioLock]
  | scheduleRecovery d immediate => rwa [(aside_scheduleRecovery d immediate).ioLock]
  | startPolling => rwa [(aside_startPolling _).ioLock]
  | _ => exact h

theorem lock_segment (h : s.ioLock = none ∨ s.ioLock = some t) (hseg : Segment G t task n s s') :
    s'.ioLock = none ∨ s'.ioLock = some t := by
  obtain ⟨m, hm, hp⟩ := hseg
  rw [(park_others hp).2.2]
  clear hp
  induction hm with
  | refl => exact h
  | tail _ hm ih => exact lock_move ih hm

section Polling

variable {d : DeviceId}

theorem aside_pollEnd (poll : PollState) (now clock : Time) : Aside s (s.pollEnd t d poll now clock) := by
  unfold pollEnd pollNext
  split
  · have ha : Aside s ((s.noteError .deviceReadFailed).observe d .backoff now) := ⟨rfl, rfl⟩
    exact (ha.trans (aside_scheduleRecovery d false)).trans ⟨rfl, rfl⟩
  · split <;> exact ⟨rfl, rfl⟩

theorem aside_pollCounted (poll : PollState) (now clock : Time) : Aside s (s.pollCounted t d poll now clock) := by
  unfold pollCounted
  split
  · exact aside_pollEnd poll now clock
  · dsimp only
    split
    · exact Aside.trans (m := s.observe d .degraded now) ⟨rfl, rfl⟩ (aside_pollEnd _ now clock)
    · exact aside_pollEnd _ now clock

theorem unlocked_pollRead (poll : PollState) (link : Link) (snapshot : DeviceSnapshot) (now clock : Time) :
    (s.pollRead t d poll link snapshot now clock).ioLock = none := by
  unfold pollRead
  dsimp only
  split
  · refine (aside_pollCounted _ now clock).ioLock.trans ?_
    split <;> rfl
  · exact (aside_pollCounted _ now clock).ioLock

end Polling

theorem unlocked_discoveryNext : (s.discoveryNext t).ioLock = s.ioLock := by
  unfold discoveryNext
  split <;> rfl

theorem lock_resume (hc : s.Coherent) (h : s.Founded) (hk : s.tasks.get? t = some k) (hl : k.frame.holdsLock = true)
    {outcome : Outcome} {now clock : Time} (hr : s.resume t outcome now clock = some s') :
    s'.ioLock = none ∨ s'.ioLock = some t ∧ ∃ k', s'.tasks.get? t = some k' ∧ k'.frame.holdsLock = true ∧
      k'.frame.rank < k.frame.rank := by
  have hseg : ∃ task, s.tasks.get? t = some task ∧ Segment {} t task s.nextOperation s s' :=
    segment_resume (fun _ _ hk => hc.ready hk) {} hr
  obtain ⟨task, -, hseg⟩ := hseg
  rcases lock_segment (.inr ((hc.tasks t k hk).lock (by simp) hl)) hseg with hfree | hlock
  · exact .inl hfree
  obtain ⟨k', hk', hl'⟩ := (parked_resume hc h hk hr).lock hlock
  have hgoes : ∀ {call r}, Goes t call r s' → r < k.frame.rank → k'.frame.rank < k.frame.rank := by
    intro call r hg hlt
    cases hg with
    | awaits hk'' hf hp =>
      obtain rfl := Option.some.inj (hk'.symm.trans hk'')
      rw [hf]
      exact hp.trans_lt hlt
    | left _ hf =>
      rw [hf k' hk'] at hl'
      cases hl'
  unfold resume at hr
  rw [hk] at hr
  dsimp only at hr
  cases hf : k.frame with
  | procedure call row point =>
    rw [hf] at hr
    refine .inr ⟨hlock, k', hk', hl', ?_⟩
    rw [hf] at hgoes
    split at hr
    · exact hgoes (goes_interruptProcedure hr) (by cases point <;> exact Nat.zero_lt_succ _)
    · obtain ⟨r, hlt, hg⟩ := goes_resumeProcedure hk hr
      exact hgoes hg hlt
  | polling d point =>
    left
    rw [hf] at hr hl
    cases point with
    | reading poll link =>
      split at hr
      · cases hr
        rfl
      · cases outcome <;> cases hr
        · exact unlocked_pollRead _ _ _ now clock
        · exact (aside_pollCounted _ now clock).ioLock
        · rfl
    | _ => cases hl
  | scan point =>
    left
    rw [hf] at hr hl
    cases point with
    | discovering operation =>
      split at hr
      · cases hr
        exact (aside_markOperation operation .failed (some .interrupted) now).ioLock
      · cases outcome <;> cases hr
        · exact (aside_finish operation false now).ioLock
        · exact (aside_finish operation true now).ioLock
    | _ => cases hl
  | discovery point =>
    left
    rw [hf] at hr hl
    cases point with
    | discovering =>
      split at hr
      · cases hr
        rfl
      · cases outcome <;> cases hr
        · exact unlocked_discoveryNext
        · exact unlocked_discoveryNext
    | _ => cases hl
  | deletion d point =>
    left
    rw [hf] at hr hl
    cases point with
    | disconnecting =>
      split at hr
      · cases hr
      · cases outcome <;> cases hr
        rfl
    | _ => cases hl
  | _ =>
    rw [hf] at hl
    cases hl

end Locks

section Fair

variable {e : Execution step} {N : ℕ}

/-- A run on one process, from time `n` on, in which no task that can run again and again is passed over forever. -/
structure Unstarved (e : Execution step) (n : ℕ) : Prop where
  started : Reachable Started step (e.state 0)
  fair : ∀ t, e.StronglyFair (fun s => s.Runnable t) (resumes t)
  lasting : ∀ m ≥ n, ∀ now, e.action m ≠ .restart now

theorem Unstarved.weakly (U : Unstarved e N) : Fair e N := ⟨U.started, fun t => (U.fair t).weakly, U.lasting⟩

def Proceeds (state : ℕ → Service) (t : TaskId) (m : ℕ) : Prop :=
  ∃ outcome now clock, (state m).resume t outcome now clock = some (state (m + 1))

theorem proceeds_of_resumes {m : ℕ} (h : resumes t (e.action m)) : Proceeds e.state t m := by
  obtain ⟨outcome, now, clock, ha⟩ := h
  have hnext := e.next m
  rw [ha] at hnext
  exact ⟨outcome, now, clock, hnext⟩

theorem Fair.stays (F : Fair e N) {m : ℕ} (hm : N ≤ m) (hk : (e.state m).tasks.get? t = some k)
    (hp : ¬ Proceeds e.state t m) : ∃ k', (e.state (m + 1)).tasks.get? t = some k' ∧ k'.frame = k.frame := by
  obtain ⟨x, hcar, hx⟩ := F.carries hm
  obtain ⟨k', hk', hf, -⟩ := hcar.kept t k (fun he => hp (hx t he)) hk
  exact ⟨k', hk', hf⟩

theorem Fair.unlocks (F : Fair e N) {m : ℕ} (hm : N ≤ m) : e.Eventually (fun s => s.ioLock = none) m := by
  cases hl : (e.state m).ioLock with
  | none => exact .of_now hl
  | some v =>
    obtain ⟨k, hk, hx⟩ := (F.sound m).2.holder v (by simp) hl
    refine Execution.eventually_of_rank (n := m)
      (P := fun s => ∃ k, s.tasks.get? v = some k ∧ k.frame.holdsLock = true)
      (fun s => ((s.tasks.get? v).map (fun k => k.frame.rank)).getD 0) ?_ ⟨k, hk, hx⟩
    rintro j hj ⟨k, hk, hx⟩
    have hrank : ((((e.state j).tasks.get? v).map (fun k => k.frame.rank)).getD 0) = k.frame.rank := by simp [hk]
    rw [hrank]
    refine (F.fair v).eventually
      (P := fun s => ∃ k', s.tasks.get? v = some k' ∧ k'.frame = k.frame) ?_ ?_ ⟨k, hk, rfl⟩ ?_
    · rintro i hi ⟨k', hk', hf'⟩
      by_cases hp : Proceeds e.state v i
      · obtain ⟨outcome, now, clock, hr⟩ := hp
        have hx' : k'.frame.holdsLock = true := hf' ▸ hx
        refine .inr ((lock_resume (F.sound i).1 (F.sound i).2 hk' hx' hr).imp_right ?_)
        rintro ⟨-, k'', hk'', hx'', hlt⟩
        exact ⟨⟨k'', hk'', hx''⟩, by simpa [hk'', hf'] using hlt⟩
      · obtain ⟨k'', hk'', hf''⟩ := F.stays (hm.trans (hj.trans hi)) hk' hp
        exact .inl ⟨k'', hk'', hf''.trans hf'⟩
    · rintro i hi ⟨k', hk', hf'⟩ ha
      obtain ⟨outcome, now, clock, hr⟩ := proceeds_of_resumes ha
      have hx' : k'.frame.holdsLock = true := hf' ▸ hx
      refine (lock_resume (F.sound i).1 (F.sound i).2 hk' hx' hr).imp_right ?_
      rintro ⟨-, k'', hk'', hx'', hlt⟩
      exact ⟨⟨k'', hk'', hx''⟩, by simpa [hk'', hf'] using hlt⟩
    · rintro i hi ⟨k', hk', hf'⟩
      have hx' : k'.frame.holdsLock = true := hf' ▸ hx
      refine runnable_of_gone (F.sound i).2 hk' (fun w hw => ?_) (fun _ hq => ?_)
      · rw [Frame.awaited_of_holdsLock hx'] at hw
        cases hw
      · cases (Frame.queues_of_holdsLock hx').symm.trans hq

/-- Every task runs again: what it waits for ends, and the lock comes free again and again. -/
theorem Unstarved.proceeds (U : Unstarved e N) {m : ℕ} (hm : N ≤ m) (hk : (e.state m).tasks.get? t = some k) :
    ∃ j ≥ m, Proceeds e.state t j ∧ ∃ k', (e.state j).tasks.get? t = some k' ∧ k'.frame = k.frame := by
  have F := U.weakly
  by_contra hnever
  have hstays : ∀ j ≥ m, ∃ k', (e.state j).tasks.get? t = some k' ∧ k'.frame = k.frame := by
    intro j hj
    induction j, hj using Nat.le_induction with
    | base => exact ⟨k, hk, rfl⟩
    | succ j hj ih =>
      obtain ⟨k', hk', hf'⟩ := ih
      obtain ⟨k'', hk'', hf''⟩ := F.stays (hm.trans hj) hk' (fun hp => hnever ⟨j, hj, hp, k', hk', hf'⟩)
      exact ⟨k'', hk'', hf''.trans hf'⟩
  have hawait : ∀ w ∈ k.frame.awaited, e.Eventually (Gone w) m := by
    intro w hw
    obtain ⟨-, hlt, hstop⟩ := (F.sound m).2.halted t k (by simp) hk w hw
    cases hkw : (e.state m).tasks.get? w with
    | none => exact .of_now ⟨hlt, hkw⟩
    | some kw => exact F.ends hm hkw (hstop kw hkw).1
  obtain ⟨j, hj, hall⟩ := Execution.eventually_all (fun w _ i hi => F.gone (hm.trans hi)) hawait
  have hgone : ∀ i ≥ j, ∀ w ∈ k.frame.awaited, Gone w (e.state i) := fun i hi w hw =>
    Execution.persists (n := j) (fun l hl => F.gone (hm.trans (hj.trans hl))) (hall w hw) hi
  have hagain : ∀ i ≥ j, e.Eventually (fun s => s.Runnable t) i := by
    intro i hi
    refine (F.unlocks (hm.trans (hj.trans hi))).imp (fun l hl hfree => ?_)
    obtain ⟨k', hk', hf'⟩ := hstays l (hj.trans (hi.trans hl))
    exact runnable_of_gone (F.sound l).2 hk' (by rw [hf']; exact hgone l (hi.trans hl)) (fun _ _ => hfree)
  obtain ⟨i, hi, ha⟩ := U.fair t j hagain
  obtain ⟨k', hk', hf'⟩ := hstays i (hj.trans hi)
  exact hnever ⟨i, hj.trans hi, proceeds_of_resumes ha, k', hk', hf'⟩

theorem Unstarved.ends (U : Unstarved e N) (hk : (e.state N).tasks.get? t = some k)
    (hop : k.frame.role.operation = some id) :
    e.Eventually (fun s => s.closing = true ∨ ¬ s.control.Live id) N := by
  refine Execution.eventually_of_rank (n := N)
    (P := fun s => ∃ k, s.tasks.get? t = some k ∧ k.frame.role.operation = some id)
    (fun s => ((s.tasks.get? t).map (fun k => k.frame.rank)).getD 0) ?_ ⟨k, hk, hop⟩
  rintro m hm ⟨k, hk, hop⟩
  have hrank : ((((e.state m).tasks.get? t).map (fun k => k.frame.rank)).getD 0) = k.frame.rank := by simp [hk]
  rw [hrank]
  obtain ⟨j, hj, ⟨outcome, now, clock, hr⟩, k', hk', hf'⟩ := U.proceeds hm hk
  rcases lowers_resume (U.weakly.sound j).1 hk' (hf' ▸ hop) hr with hc | hl | ⟨k'', hk'', hop'', hlt⟩
  · exact ⟨j, hj, .inl (.inl hc)⟩
  · exact ⟨j + 1, hj.trans (Nat.le_succ j), .inl (.inr hl)⟩
  · exact ⟨j + 1, hj.trans (Nat.le_succ j), .inr ⟨⟨k'', hk'', hop''⟩, by simpa [hk'', hf'] using hlt⟩⟩

end Fair

section Runtime

variable {python : CPython} {e : Execution (stepOn python)} {N : ℕ}

structure UnstarvedOn (e : Execution (stepOn python)) (n : ℕ) : Prop where
  started : Reachable Started (stepOn python) (e.state 0)
  fair : ∀ t, e.StronglyFair (fun s => s.Runnable t) (runs t)
  lasting : ∀ m ≥ n, ∀ now, e.action m ≠ .service (.restart now)

theorem no_task_starves (hp : python.losesCancellation = false) (h : UnstarvedOn e N)
    (hk : (e.state N).tasks.get? t = some k) :
    (∃ j ≥ N, Proceeds e.state t j) ∧ ∀ id, k.frame.role.operation = some id →
      e.Eventually (fun s => s.closing = true ∨ ¬ s.control.Live id) N := by
  have hfair : Unstarved (serviceRun e hp) N := by
    refine ⟨reachable_of_stepOn hp h.started, fun t n hn => ?_, lasting_serviceRun hp h.lasting⟩
    obtain ⟨m, hm, hr⟩ := h.fair t n hn
    exact ⟨m, hm, resumes_of_runs hp hr⟩
  obtain ⟨j, hj, hp, -⟩ := hfair.proceeds le_rfl hk
  exact ⟨⟨j, hj, hp⟩, fun id hop => hfair.ends hk hop⟩

theorem no_task_starves_scan : (∃ j ≥ 1, Proceeds (onPython .v312 shortSession).state 1 j) ∧ ∀ id, some 0 = some id →
    (onPython .v312 shortSession).Eventually (fun s => s.closing = true ∨ ¬ s.control.Live id) 1 := by
  refine no_task_starves (t := 1) (k := ⟨.scan (.starting 0), false⟩) rfl
    ⟨.init firstSession_started, fun t n hn => ?_, fun m _ now ha => ?_⟩ rfl
  · obtain ⟨m, hm, hr⟩ := hn (n + 9) (Nat.le_add_right n 9)
    exact absurd hr (shortSession_idle t ((Nat.le_add_left 9 n).trans hm))
  · exact shortSession_lasting m now (RuntimeAction.service.inj ha)

end Runtime

end Service

end PitbluCore
