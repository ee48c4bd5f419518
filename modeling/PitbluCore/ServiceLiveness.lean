import PitbluCore.ServiceRuntime
import PitbluCore.ServiceWaits

namespace PitbluCore

open Library Relation

def ClosePoint.rank : ClosePoint → ℕ
  | .stoppingDiscovery _ => 5
  | .stoppingOperations _ => 4
  | .stoppingRecoveries _ => 3
  | .stoppingPolling _ => 2
  | .stoppingRemaining _ => 1
  | .disconnecting => 0

namespace Service

variable {G : Guards} {s s' m : Service} {n : OperationId} {t u : TaskId} {task k : Task}

section Closing

def Descends (t : TaskId) (r : ℕ) (s : Service) : Prop :=
  ∃ k point, s.tasks.get? t = some k ∧ k.frame = .closing point ∧ point.rank ≤ r

theorem descends_suspend (hk : s.tasks.get? t = some k) (point : ClosePoint) {r : ℕ} (hr : point.rank ≤ r) :
    Descends t r (s.suspend t (.closing point)) := ⟨_, point, get?_suspend_self hk _, rfl, hr⟩

theorem descends_closeAdapter (hk : s.tasks.get? t = some k) (now : Time) : Descends t 0 (s.closeAdapter t now) := by
  unfold closeAdapter
  dsimp only
  refine descends_suspend (k := k) ?_ .disconnecting le_rfl
  split <;> exact hk

theorem descends_closeRemaining (hk : s.tasks.get? t = some k) (now : Time) :
    Descends t 1 (s.closeRemaining t now) := by
  unfold closeRemaining
  dsimp only
  split
  · obtain ⟨k', point, hk', hf, hr⟩ := descends_closeAdapter hk now
    exact ⟨k', point, hk', hf, hr.trans (by decide)⟩
  · obtain ⟨k', hk', -⟩ := get?_cancelAll s.scheduledTasks hk
    exact descends_suspend hk' (.stoppingRemaining s.scheduledTasks) le_rfl

theorem descends_closePolling (hk : s.tasks.get? t = some k) (now : Time) : Descends t 2 (s.closePolling t now) := by
  obtain ⟨k₁, hk₁, -⟩ := get?_cancelAll (s := { s with pollingTasks := Dict.empty }) s.pollingTasks.values hk
  unfold closePolling
  dsimp only
  split
  · obtain ⟨k', point, hk', hf, hr⟩ := descends_closeRemaining hk₁ now
    exact ⟨k', point, hk', hf, hr.trans (by decide)⟩
  · exact descends_suspend hk₁ (.stoppingPolling s.pollingTasks.values) le_rfl

theorem descends_closeRecoveries (hk : s.tasks.get? t = some k) (now : Time) :
    Descends t 3 (s.closeRecoveries t now) := by
  obtain ⟨k₁, hk₁, -⟩ := get?_cancelAll (s := { s with recoveries := Dict.empty }) s.recoveries.values hk
  unfold closeRecoveries
  dsimp only
  split
  · obtain ⟨k', point, hk', hf, hr⟩ := descends_closePolling hk₁ now
    exact ⟨k', point, hk', hf, hr.trans (by decide)⟩
  · exact descends_suspend hk₁ (.stoppingRecoveries s.recoveries.values) le_rfl

theorem descends_closeOperations (hk : s.tasks.get? t = some k) (now : Time) :
    Descends t 4 (s.closeOperations t now) := by
  unfold closeOperations
  dsimp only
  split
  · obtain ⟨k', point, hk', hf, hr⟩ := descends_closeRecoveries hk now
    exact ⟨k', point, hk', hf, hr.trans (by decide)⟩
  · obtain ⟨k', hk', -⟩ := get?_cancelAll s.scheduledTasks hk
    exact descends_suspend hk' (.stoppingOperations s.scheduledTasks) le_rfl

theorem descends_resumeClosing (hk : s.tasks.get? t = some k) {point : ClosePoint} {outcome : Outcome} {now : Time}
    (h : s.resumeClosing t point outcome now = some s') :
    s'.closed = true ∨ ∃ r < point.rank, Descends t r s' := by
  unfold resumeClosing at h
  split at h
  case h_1 =>
    split at h <;> cases h
    exact .inr ⟨4, Nat.lt_succ_self 4, descends_closeOperations hk now⟩
  case h_2 =>
    split at h <;> cases h
    exact .inr ⟨3, Nat.lt_succ_self 3, descends_closeRecoveries hk now⟩
  case h_3 =>
    split at h <;> cases h
    exact .inr ⟨2, Nat.lt_succ_self 2, descends_closePolling hk now⟩
  case h_4 =>
    split at h <;> cases h
    exact .inr ⟨1, Nat.lt_succ_self 1, descends_closeRemaining hk now⟩
  case h_5 =>
    split at h <;> cases h
    exact .inr ⟨0, Nat.lt_succ_self 0, descends_closeAdapter hk now⟩
  case h_6 =>
    cases h
    exact .inl rfl
  case h_7 => cases h

theorem descends_step (hc : s.Coherent) {a : Action} (ha : ∀ now, a ≠ .restart now) (hs : s.step a = some s')
    (hk : s.tasks.get? t = some k) {p : ClosePoint} (hf : k.frame = .closing p) :
    s'.closed = true ∨ (∃ r < p.rank, Descends t r s') ∨
      ∃ k', s'.tasks.get? t = some k' ∧ k'.frame = .closing p := by
  obtain ⟨x, hcar, hx⟩ := carries_step hc ha hs
  by_cases hxt : x = some t
  · obtain ⟨outcome, now, clock, hr⟩ := hx t hxt
    obtain ⟨p', hf', -, hr'⟩ := resumeClosing_of_resume hk (by rw [hf]; rfl) hr
    rw [hf] at hf'
    cases hf'
    exact (descends_resumeClosing hk hr').imp_right .inl
  · obtain ⟨k', hk', hf', -⟩ := hcar.kept t k hxt hk
    exact .inr (.inr ⟨k', hk', hf'.trans hf⟩)

def Attended (s : Service) : Prop := s.closing = true → s.closed = true ∨ ∃ t r, Descends t r s

theorem Attended.carries {x : Option TaskId} (h : s.Attended) (hcar : Carries x s s')
    (hx : ∀ t k point, s.tasks.get? t = some k → k.frame = .closing point → x ≠ some t)
    (hc : s'.closing = s.closing) (hd : s.closed = true → s'.closed = true) : s'.Attended := by
  intro hclosing
  refine (h (hc ▸ hclosing)).imp hd (fun ⟨t, r, k, point, hk, hf, hr⟩ => ?_)
  obtain ⟨k', hk', hf', -⟩ := hcar.kept t k (hx t k point hk hf) hk
  exact ⟨t, r, k', point, hk', hf'.trans hf, hr⟩

theorem attended_request (hc : s.Coherent) (h : s.Attended) (hr : Request G s s') : s'.Attended := by
  have hcar : Carries none s s' := carries_request hc hr
  have hkeep : s'.closing = s.closing → s'.Attended :=
    fun hclosing => h.carries hcar (by simp) hclosing (closed_request hr).trans
  cases hr with
  | quiet hq => exact hkeep (congrArg Control.closing hq.control)
  | close =>
    intro _
    refine .inr ⟨s.nextTask, _, ⟨.closing (.stoppingDiscovery s.discoveryTask), false⟩, _, ?_, rfl, le_rfl⟩
    simp [close, spawn, Service.cancel]
  | @adopt d => exact hkeep (steady_scheduleRecovery (s := { s with owner := some d }) d true).closing
  | _ => exact hkeep rfl

theorem attended_step (hc : s.Coherent) (h : s.Attended) {a : Action} (hs : s.step a = some s') : s'.Attended := by
  cases a with
  | restart now =>
    intro hclosing
    cases hs
    have hstart : ReflTransGen (Request {}) (s.successor.startDiscovery now) (s.restart now) := request_start rfl now
    have hboot : (s.successor.startDiscovery now).Attended := fun hx => by cases hx
    have hbc : (s.successor.startDiscovery now).Coherent := coherent_create hc.stored now
    revert hclosing
    change (s.restart now).Attended
    generalize s.restart now = s' at hstart
    induction hstart with
    | refl => exact hboot
    | tail hrs hr ih => exact attended_request (coherent_requests hbc hrs) ih hr
  | _ =>
    have ha := hs
    rcases proceeds_step (G := {}) hc {} (by rintro now ⟨⟩) hs with ⟨t, task, hk, m, hm, hp⟩ | hreq
    · have hclosing : s'.closing = s.closing := by
        rw [(steady_park hp).closing]
        clear hp ha hs
        induction hm with
        | refl => rfl
        | tail _ hm ih => exact (closing_move hm).trans ih
      intro hx
      rcases h (hclosing ▸ hx) with hcl | ⟨c, r, k, point, hk', hf, hr⟩
      · exact .inl (closed_step hc (by rintro now ⟨⟩) ha hcl)
      · rcases descends_step hc (by rintro now ⟨⟩) ha hk' hf with hcl | ⟨r', -, hd⟩ | ⟨k', hk'', hf'⟩
        · exact .inl hcl
        · exact .inr ⟨c, r', hd⟩
        · exact .inr ⟨c, r, k', point, hk'', hf', hr⟩
    · clear hs ha
      induction hreq with
      | refl => exact h
      | tail hrs hr ih => exact attended_request (coherent_requests hc hrs) ih hr

end Closing

section Fair

variable {e : Execution step}

def Gone (u : TaskId) (s : Service) : Prop := u < s.nextTask ∧ s.tasks.get? u = none

def StoppedAt (u : TaskId) (f : Frame) (s : Service) : Prop :=
  Gone u s ∨ ∃ k, s.tasks.get? u = some k ∧ k.Stopped ∧ k.frame = f

def resumes (t : TaskId) (a : Action) : Prop := ∃ outcome now clock, a = .resume t outcome now clock

/-- A run on one process, from time `n` on, in which no task that can run is passed over forever. -/
structure Fair (e : Execution step) (n : ℕ) : Prop where
  started : Reachable Started step (e.state 0)
  fair : ∀ t, e.WeaklyFair (fun s => s.Runnable t) (resumes t)
  lasting : ∀ m ≥ n, ∀ now, e.action m ≠ .restart now

variable {N : ℕ} (F : Fair e N)

include F

theorem Fair.sound (m : ℕ) : (e.state m).Coherent ∧ (e.state m).Founded :=
  founded_reaches (Execution.reaches F.started m)

theorem Fair.from {n : ℕ} (hn : N ≤ n) : Fair e n := ⟨F.started, F.fair, fun m hm => F.lasting m (hn.trans hm)⟩

theorem Fair.carries {m : ℕ} (hm : N ≤ m) : ∃ x, Carries x (e.state m) (e.state (m + 1)) ∧
    ∀ t, x = some t → ∃ outcome now clock, (e.state m).resume t outcome now clock = some (e.state (m + 1)) :=
  carries_step (F.sound m).1 (F.lasting m hm) (e.next m)

theorem Fair.gone {m : ℕ} (hm : N ≤ m) (h : Gone u (e.state m)) : Gone u (e.state (m + 1)) := by
  obtain ⟨x, hcar, -⟩ := F.carries hm
  exact ⟨h.1.trans_le hcar.next, hcar.gone u h.1 h.2⟩

omit F in
theorem gone_resume (hc : s.Coherent) (hk : s.tasks.get? u = some k) (hs : k.Stopped) {outcome : Outcome}
    {now clock : Time} (hr : s.resume u outcome now clock = some s') : s'.tasks.get? u = none := by
  obtain ⟨task, hk', m, hm, hp⟩ := segment_resume (G := {}) (fun _ _ hk => hc.ready hk) {} hr
  obtain rfl := Option.some.inj (hk.symm.trans hk')
  exact stopped_resume hk hp (coherent_moves hc hk hm).2 hs hr

theorem Fair.stopped {m : ℕ} (hm : N ≤ m) {f : Frame} (h : StoppedAt u f (e.state m)) :
    StoppedAt u f (e.state (m + 1)) := by
  rcases h with h | ⟨k, hk, hs, hf⟩
  · exact .inl (F.gone hm h)
  · have hc := (F.sound m).1
    obtain ⟨x, hcar, hx⟩ := F.carries hm
    by_cases hxu : x = some u
    · obtain ⟨outcome, now, clock, hr⟩ := hx u hxu
      exact .inl ⟨(lt_nextTask hc hk).trans_le hcar.next, gone_resume hc hk hs hr⟩
    · obtain ⟨k', hk', hf', hs'⟩ := hcar.kept u k hxu hk
      exact .inr ⟨k', hk', hs' hs, hf'.trans hf⟩

omit F in
theorem runnable_of_gone (h : s.Founded) (hk : s.tasks.get? u = some k) (ha : ∀ w ∈ k.frame.awaited, Gone w s)
    (hq : k.cancelled = false → k.frame.queues = true → s.ioLock = none) : s.Runnable u := by
  refine (runnable_or_waits h hk).resolve_right (fun ⟨w, k₁, k', hk₁, hk', hw⟩ => ?_)
  obtain rfl := Option.some.inj (hk.symm.trans hk₁)
  rcases hw with hw | ⟨hlive, hqueue, hl⟩
  · cases (ha w hw).2.symm.trans hk'
  · cases (hq hlive hqueue).symm.trans hl

omit F in
theorem not_queues_of_stopped (hs : k.Stopped) (hlive : k.cancelled = false) : k.frame.queues ≠ true := by
  rcases hs with hs | ⟨d, hf⟩
  · cases hlive.symm.trans hs
  · simp [hf, Frame.queues]

theorem Fair.ends {m : ℕ} (hm : N ≤ m) (hk : (e.state m).tasks.get? u = some k) (hs : k.Stopped) :
    e.Eventually (Gone u) m := by
  induction hd : k.frame.depth using Nat.strong_induction_on generalizing u k m with
  | _ d ih =>
    have hhalt := (F.sound m).2.halted u k (by simp) hk
    have hawait : ∀ w ∈ k.frame.awaited, e.Eventually (Gone w) m := by
      intro w hw
      obtain ⟨-, hlt, hstop⟩ := hhalt w hw
      cases hkw : (e.state m).tasks.get? w with
      | none => exact .of_now ⟨hlt, hkw⟩
      | some kw =>
        obtain ⟨hsw, hg⟩ := hstop kw hkw
        exact ih _ (hd ▸ depth_stops hw hg ((F.sound m).2.asked hkw)) hm hkw hsw rfl
    refine (Execution.eventually_all (fun w _ j hj => F.gone (hm.trans hj)) hawait).bind (fun j hj hall => ?_)
    have hstopped : StoppedAt u k.frame (e.state j) :=
      Execution.persists (fun i hi => F.stopped (hm.trans hi)) (.inr ⟨k, hk, hs, rfl⟩) hj
    rcases hstopped with hgone | hstopped
    · exact .of_now hgone
    refine (F.fair u).eventually (P := fun s => (∃ k', s.tasks.get? u = some k' ∧ k'.Stopped ∧ k'.frame = k.frame) ∧
      ∀ w ∈ k.frame.awaited, Gone w s) ?_ ?_ ⟨hstopped, hall⟩ ?_
    · rintro i hi ⟨hp, hw⟩
      have hi' := hm.trans (hj.trans hi)
      exact (F.stopped hi' (.inr hp)).symm.imp_left (fun hp => ⟨hp, fun w hx => F.gone hi' (hw w hx)⟩)
    · rintro i hi ⟨⟨k', hk', hs', hf'⟩, -⟩ ⟨outcome, now, clock, ha⟩
      have hnext := e.next i
      rw [ha] at hnext
      obtain ⟨x, hcar, -⟩ := F.carries (hm.trans (hj.trans hi))
      exact ⟨(lt_nextTask (F.sound i).1 hk').trans_le hcar.next, gone_resume (F.sound i).1 hk' hs' hnext⟩
    · rintro i hi ⟨⟨k', hk', hs', hf'⟩, hw⟩
      exact runnable_of_gone (F.sound i).2 hk' (hf' ▸ hw) (fun hl hq => absurd hq (not_queues_of_stopped hs' hl))

def ClosingAt (t : TaskId) (point : ClosePoint) (s : Service) : Prop :=
  (s.closed = true ∨ ∃ r < point.rank, Descends t r s) ∨ ∃ k, s.tasks.get? t = some k ∧ k.frame = .closing point

theorem Fair.closingAt {m : ℕ} (hm : N ≤ m) {point : ClosePoint} (h : ClosingAt t point (e.state m)) :
    ClosingAt t point (e.state (m + 1)) := by
  have hc := (F.sound m).1
  have hstep := fun {k p} => descends_step (t := t) (k := k) (p := p) hc (F.lasting m hm) (e.next m)
  rcases h with (hcl | ⟨r, hr, k, p, hk, hf, hp⟩) | ⟨k, hk, hf⟩
  · exact .inl (.inl (closed_step hc (F.lasting m hm) (e.next m) hcl))
  · rcases hstep hk hf with hcl | ⟨r', hr', hd⟩ | ⟨k', hk', hf'⟩
    · exact .inl (.inl hcl)
    · exact .inl (.inr ⟨r', hr'.trans_le (hp.trans hr.le), hd⟩)
    · exact .inl (.inr ⟨r, hr, k', p, hk', hf', hp⟩)
  · exact (hstep hk hf).elim (fun hcl => .inl (.inl hcl)) (Or.imp_left .inr)

theorem Fair.advances {m : ℕ} (hm : N ≤ m) {point : ClosePoint} (hk : (e.state m).tasks.get? t = some k)
    (hf : k.frame = .closing point) :
    e.Eventually (fun s => s.closed = true ∨ ∃ r < point.rank, Descends t r s) m := by
  have hhalt := (F.sound m).2.halted t k (by simp) hk
  have hawait : ∀ w ∈ k.frame.awaited, e.Eventually (Gone w) m := by
    intro w hw
    obtain ⟨-, hlt, hstop⟩ := hhalt w hw
    cases hkw : (e.state m).tasks.get? w with
    | none => exact .of_now ⟨hlt, hkw⟩
    | some kw => exact F.ends hm hkw (hstop kw hkw).1
  refine (Execution.eventually_all (fun w _ j hj => F.gone (hm.trans hj)) hawait).bind (fun j hj hall => ?_)
  have hat : ClosingAt t point (e.state j) :=
    Execution.persists (fun i hi => F.closingAt (hm.trans hi)) (.inr ⟨k, hk, hf⟩) hj
  rcases hat with hdone | hat
  · exact .of_now hdone
  refine (F.fair t).eventually (P := fun s => (∃ k', s.tasks.get? t = some k' ∧ k'.frame = .closing point) ∧
    ∀ w ∈ k.frame.awaited, Gone w s) ?_ ?_ ⟨hat, hall⟩ ?_
  · rintro i hi ⟨hp, hw⟩
    have hi' := hm.trans (hj.trans hi)
    exact (F.closingAt hi' (.inr hp)).symm.imp_left (fun hp => ⟨hp, fun w hx => F.gone hi' (hw w hx)⟩)
  · rintro i hi ⟨⟨k', hk', hf'⟩, -⟩ ⟨outcome, now, clock, ha⟩
    have hnext := e.next i
    rw [ha] at hnext
    obtain ⟨p, hp, -, hr⟩ := resumeClosing_of_resume hk' (by rw [hf']; rfl) hnext
    rw [hf'] at hp
    cases hp
    exact descends_resumeClosing hk' hr
  · rintro i hi ⟨⟨k', hk', hf'⟩, hw⟩
    refine runnable_of_gone (F.sound i).2 hk' (by rw [hf', ← hf]; exact hw) (fun _ hq => ?_)
    rw [hf'] at hq
    cases hq

theorem Fair.closes {m : ℕ} (hm : N ≤ m) {r : ℕ} (hd : Descends t r (e.state m)) :
    e.Eventually (fun s => s.closed = true) m := by
  induction r using Nat.strong_induction_on generalizing m with
  | _ r ih =>
    obtain ⟨k, point, hk, hf, hr⟩ := hd
    refine (F.advances hm hk hf).bind (fun j hj h => ?_)
    rcases h with hcl | ⟨r', hr', hd⟩
    · exact .of_now hcl
    · exact ih r' (hr'.trans_le hr) (hm.trans hj) hd

omit F in
theorem attended_reaches (h : Reachable Started step s) : s.Attended := by
  refine (Reaches.invariant (I := fun s => s.Coherent ∧ s.Attended) ?_ ?_ h).2
  · rintro s ⟨boot, now, hb, rfl⟩
    have hstart : ReflTransGen (Request {}) (boot.startDiscovery now) (boot.start now) := request_start hb.tasks now
    have hboot : (boot.startDiscovery now).Attended := by
      obtain ⟨settings, store, T, id, nextOperation, -, -, rfl⟩ := hb
      intro hx
      cases hx
    have hbc := hb.coherent now
    generalize boot.start now = s' at hstart
    induction hstart with
    | refl => exact ⟨hbc, hboot⟩
    | tail _ hr ih => exact ⟨coherent_request ih.1 hr, attended_request ih.1 ih.2 hr⟩
  · rintro s a s' ⟨hc, h⟩ - hs
    exact ⟨coherent_evolves hc (evolves_step (G := {}) hc {} hs), attended_step hc h hs⟩

omit F in
theorem Fair.closed (h : Fair e N) (hc : (e.state N).closing = true) : e.Eventually (fun s => s.closed = true) N := by
  rcases attended_reaches (Execution.reaches h.started N) hc with hcl | ⟨t, r, hd⟩
  · exact .of_now hcl
  · exact h.closes le_rfl hd

end Fair

section Runtime

variable {python : CPython} {e : Execution (stepOn python)} {N : ℕ}

structure FairOn (e : Execution (stepOn python)) (n : ℕ) : Prop where
  started : Reachable Started (stepOn python) (e.state 0)
  fair : ∀ t, e.WeaklyFair (fun s => s.Runnable t) (runs t)
  lasting : ∀ m ≥ n, ∀ now, e.action m ≠ .service (.restart now)

theorem resumes_of_runs (hp : python.losesCancellation = false) {n : ℕ} (h : runs t (e.action n)) :
    resumes t ((serviceRun e hp).action n) := by
  obtain ⟨outcome, now, clock, ha⟩ := h
  exact ⟨outcome, now, clock, RuntimeAction.service.inj ((action_serviceRun hp n).symm.trans ha)⟩

theorem lasting_serviceRun (hp : python.losesCancellation = false)
    (h : ∀ m ≥ N, ∀ now, e.action m ≠ .service (.restart now)) :
    ∀ m ≥ N, ∀ now, (serviceRun e hp).action m ≠ .restart now := by
  intro m hm now ha
  exact h m hm now ((action_serviceRun hp m).trans (congrArg RuntimeAction.service ha))

theorem close_returns (hp : python.losesCancellation = false) (h : FairOn e N) (hc : (e.state N).closing = true) :
    e.Eventually (fun s => s.closed = true) N := by
  have hfair : Fair (serviceRun e hp) N := by
    refine ⟨reachable_of_stepOn hp h.started, fun t n hn => ?_, lasting_serviceRun hp h.lasting⟩
    obtain ⟨m, hm, hr⟩ := h.fair t n hn
    exact ⟨m, hm, resumes_of_runs hp hr⟩
  exact hfair.closed hc

end Runtime

section Session

def shortAction : ℕ → Action
  | 0 => .startScan 0
  | 1 | 2 => go 1
  | 3 => .resume 1 (.found []) 0 0
  | 4 => go 2
  | 5 => .close
  | 6 => go 0
  | 7 | 8 => go 3
  | _ => .linkLost

def shortState : ℕ → Service
  | 0 => firstSession
  | n + 1 => ((shortState n).step (shortAction n)).getD firstSession

def shortSession : Execution step where
  state := shortState
  action := shortAction
  next n := match n with
    | 0 | 1 | 2 | 3 | 4 | 5 | 6 | 7 | 8 => rfl
    | _ + 9 => rfl

theorem shortState_tasks (n : ℕ) : (shortState (n + 9)).tasks = Dict.empty := by
  induction n with
  | zero => rfl
  | succ n ih => exact ih

theorem shortSession_idle (t : TaskId) {n : ℕ} (hn : 9 ≤ n) : ¬ (shortSession.state n).Runnable t := by
  obtain ⟨n, rfl⟩ := Nat.exists_eq_add_of_le' hn
  rintro ⟨outcome, now, clock, hr⟩
  have ht : (shortSession.state (n + 9)).tasks.get? t = none := by
    rw [show shortSession.state (n + 9) = shortState (n + 9) from rfl, shortState_tasks]
    rfl
  simp [resume, ht] at hr

theorem shortSession_lasting (n : ℕ) (now : Time) : shortSession.action n ≠ .restart now := by
  change shortAction n ≠ .restart now
  unfold shortAction
  split <;> rintro ⟨⟩

theorem close_returns_short : (onPython .v312 shortSession).Eventually (fun s => s.closed = true) 6 := by
  refine close_returns rfl ⟨.init firstSession_started, fun t n hn => ?_, fun m _ now ha => ?_⟩ rfl
  · exact absurd (hn (n + 9) (Nat.le_add_right n 9)) (shortSession_idle t (Nat.le_add_left 9 n))
  · exact shortSession_lasting m now (RuntimeAction.service.inj ha)

/-- On 3.11 a poll loses the cancellation for which `close` waits, and goes on. -/
example :
    (replay (stepOn .v311) firstSession ((connectFirst ++ [go 4, go 5, go 4, go 4, .close, go 0, go 6]).map .service ++
      [.loseCancellation 4, .service (.resume 4 (.read (TelemetryState.sampleSnapshot 0 1 Nat.one_pos)) 0 0)])).map
      (fun s => (s.tasks.get? 6, (s.tasks.get? 4).map Task.cancelled)) =
      some (some ⟨.closing (.stoppingPolling [4]), false⟩, some false) := by decide +kernel

end Session

end Service

end PitbluCore
