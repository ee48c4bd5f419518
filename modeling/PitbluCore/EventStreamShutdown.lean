import PitbluCore.EventStream
import PitbluCore.Library.Fairness

namespace PitbluCore

open Library

def StreamPoint.rank : StreamPoint → ℕ
  | .waiting _ => 5
  | .gathering _ .cancelling => 4
  | .gathering _ _ => 3
  | .yielding => 2
  | .starting => 1
  | .ended => 0

def StreamPoint.due : StreamPoint → StreamAction
  | .waiting _ => .resumeWait
  | .gathering _ .cancelling => .run
  | .gathering _ _ => .resumeGather
  | _ => .next

theorem StreamPoint.due_eq {p q : StreamPoint} (h : p.rank = q.rank) (hq : q.rank ≠ 0) : p.due = q.due := by
  unfold StreamPoint.rank at h hq
  unfold StreamPoint.due
  split at h <;> split at h <;> simp_all

theorem StreamPoint.ended_of_rank {p : StreamPoint} (h : p.rank = 0) : p = .ended := by
  unfold StreamPoint.rank at h
  split at h <;> simp_all

theorem StreamPoint.due_own (p : StreamPoint) : (∀ b, p.due ≠ .bus b) ∧ p.due ≠ .closeStreams := by
  unfold StreamPoint.due
  split <;> simp

namespace EventStream

variable {s s' : EventStream} {a : StreamAction}

structure Placed (s : EventStream) : Prop where
  gathering : ∀ done, s.point ≠ .gathering done .pending
  queue : s.point ≠ .starting → s.queue < s.out.bus.nextSubscriber
  ended : s.point = .ended → ∀ q ∈ s.out.bus.subscribers, q.1 ≠ s.queue

theorem created_placed (h : s.Created) : s.Placed := by
  obtain ⟨-, hpoint, -⟩ := h
  refine ⟨fun done hx => ?_, fun hx => absurd hpoint hx, fun hx => ?_⟩
  · cases hpoint.symm.trans hx
  · cases hpoint.symm.trans hx

theorem nextSubscriber_step {o o' : FanOut} {b : BusAction} (h : o.step b = some o') :
    o.bus.nextSubscriber ≤ o'.bus.nextSubscriber := by
  cases b with
  | get id =>
    obtain ⟨⟨e, b⟩, hb, rfl⟩ := Option.map_eq_some_iff.mp h
    obtain ⟨q, -, rfl⟩ := FanOut.get_cases hb
    exact le_rfl
  | subscribe =>
    cases h
    exact Nat.le_succ _
  | _ =>
    cases h
    exact le_rfl

theorem subscriber_step {o o' : FanOut} {b : BusAction} (h : o.step b = some o') :
    ∀ q ∈ o'.bus.subscribers, q.1 ∈ o.bus.subscribers.map Prod.fst ∨ q.1 = o.bus.nextSubscriber := by
  intro q hq
  cases b with
  | get id =>
    obtain ⟨⟨e, b⟩, hb, rfl⟩ := Option.map_eq_some_iff.mp h
    obtain ⟨rest, -, rfl⟩ := FanOut.get_cases hb
    obtain ⟨r, hr, rfl⟩ := List.mem_map.mp hq
    refine .inl (List.mem_map.mpr ⟨r, hr, ?_⟩)
    split
    · rename_i hid
      exact hid
    · rfl
  | publish e =>
    cases h
    obtain ⟨r, hr, rfl⟩ := List.mem_map.mp hq
    exact .inl (List.mem_map.mpr ⟨r, hr, rfl⟩)
  | subscribe =>
    cases h
    rcases List.mem_append.mp hq with hq | hq
    · exact .inl (List.mem_map_of_mem hq)
    · exact .inr (by rw [List.mem_singleton.mp hq])
  | unsubscribe id =>
    cases h
    exact .inl (List.mem_map_of_mem (List.mem_of_mem_filter hq))
  | forgetDevice d =>
    cases h
    exact .inl (List.mem_map_of_mem hq)

theorem Placed.bus (h : s.Placed) {b : BusAction} {out : FanOut} (hs : s.out.step b = some out) :
    ({ s with out := out } : EventStream).Placed := by
  refine ⟨h.gathering, fun hp => (h.queue hp).trans_le (nextSubscriber_step hs), fun hp q hq => ?_⟩
  rcases subscriber_step hs q hq with hold | hnext
  · obtain ⟨r, hr, hid⟩ := List.mem_map.mp hold
    exact hid ▸ h.ended hp r hr
  · have hlt := h.queue (by rw [show s.point = .ended from hp]; simp)
    exact hnext ▸ hlt.ne'

theorem Placed.goes_on (h : s.Placed) (hp : s.point ≠ .starting) (hqueue : s'.queue = s.queue)
    (hnext : s'.out.bus.nextSubscriber = s.out.bus.nextSubscriber) (hended : s'.point ≠ .ended)
    (hgathering : ∀ done, s'.point ≠ .gathering done .pending) : s'.Placed :=
  ⟨hgathering, fun _ => hqueue ▸ hnext ▸ h.queue hp, fun hx => absurd hx hended⟩

theorem placed_loop (hqueue : s.queue < s.out.bus.nextSubscriber) : s.loop.Placed := by
  unfold EventStream.loop
  split
  · refine ⟨fun _ hx => (by cases hx), fun _ => hqueue, fun _ q hq => ?_⟩
    simpa using (List.mem_filter.mp hq).2
  · exact ⟨fun _ hx => (by cases hx), fun _ => hqueue, fun hx => (by cases hx)⟩

theorem placed_step (h : s.Placed) (hs : s.step a = some s') : s'.Placed := by
  cases a with
  | bus b =>
    obtain ⟨-, hs⟩ := Option.ite_none_right_eq_some.mp hs
    obtain ⟨out, hout, rfl⟩ := Option.map_eq_some_iff.mp hs
    exact h.bus hout
  | closeStreams =>
    cases hs
    exact ⟨h.gathering, h.queue, h.ended⟩
  | next =>
    simp only [EventStream.step] at hs
    split at hs <;> cases hs
    · exact placed_loop (Nat.lt_succ_self _)
    · rename_i hp
      exact placed_loop (h.queue (by simp [hp]))
  | run =>
    simp only [EventStream.step] at hs
    split at hs <;> cases hs
    · rename_i hp
      unfold EventStream.runGet
      split
      · rename_i e b hb
        obtain ⟨rest, -, rfl⟩ := FanOut.get_cases hb
        exact h.goes_on (by simp [hp]) rfl rfl (by simp) (by simp)
      · exact h
    · rename_i hp
      exact h.goes_on (by simp [hp]) rfl rfl (by simp) (by simp)
  | resumeWait =>
    simp only [EventStream.step] at hs
    split at hs <;> cases hs
    rename_i get hp
    refine h.goes_on (by simp [hp]) rfl rfl (by simp) (fun done hx => ?_)
    cases get <;> cases hx
  | resumeGather =>
    simp only [EventStream.step] at hs
    split at hs
    · rename_i hp
      have hqueue := h.queue (by simp [hp])
      split at hs
      · split at hs
        · cases hs
          exact placed_loop hqueue
        · split at hs <;> cases hs
          · exact h.goes_on (by simp [hp]) rfl rfl (by simp [yieldFrame]) (by simp [yieldFrame])
          · exact h.goes_on (by simp [hp]) rfl rfl (by simp [yieldFrame]) (by simp [yieldFrame])
      · cases hs
    · cases hs

theorem closed_step (hc : s.streamsClosed = true) (hs : s.step a = some s') :
    s'.streamsClosed = true ∧ s'.frames = s.frames ∧ s'.point.rank ≤ s.point.rank ∧
      (s.point.rank ≠ 0 → a = s.point.due → s'.point.rank < s.point.rank) := by
  have hloop : ∀ r : EventStream, r.streamsClosed = true →
      r.loop.streamsClosed = true ∧ r.loop.frames = r.frames ∧ r.loop.point.rank = 0 :=
    fun r hr => by simp [EventStream.loop, hr, StreamPoint.rank]
  cases a with
  | bus b =>
    obtain ⟨-, hs⟩ := Option.ite_none_right_eq_some.mp hs
    obtain ⟨out, -, rfl⟩ := Option.map_eq_some_iff.mp hs
    exact ⟨hc, rfl, le_rfl, fun _ hd => absurd hd.symm (s.point.due_own.1 b)⟩
  | closeStreams =>
    cases hs
    exact ⟨rfl, rfl, le_rfl, fun _ hd => absurd hd.symm s.point.due_own.2⟩
  | next =>
    simp only [EventStream.step] at hs
    split at hs <;> cases hs
    · rename_i hp
      obtain ⟨hclosed, hframes, hrank⟩ := hloop s.subscribe hc
      rw [hp, hrank]
      exact ⟨hclosed, hframes, Nat.zero_le _, fun _ _ => Nat.one_pos⟩
    · rename_i hp
      obtain ⟨hclosed, hframes, hrank⟩ := hloop s hc
      rw [hp, hrank]
      exact ⟨hclosed, hframes, Nat.zero_le _, fun _ _ => Nat.two_pos⟩
  | run =>
    simp only [EventStream.step] at hs
    split at hs <;> cases hs
    · rename_i hp
      have hget : s.runGet.streamsClosed = s.streamsClosed ∧ s.runGet.frames = s.frames ∧ s.runGet.point.rank = 5 := by
        unfold EventStream.runGet
        split
        · exact ⟨rfl, rfl, rfl⟩
        · exact ⟨rfl, rfl, by rw [hp]; rfl⟩
      rw [hget.1, hget.2.1, hget.2.2, hp]
      exact ⟨hc, rfl, le_rfl, fun _ hd => by cases hd⟩
    · rename_i hp
      rw [hp]
      exact ⟨hc, rfl, Nat.le_succ 3, fun _ _ => Nat.lt_succ_self 3⟩
  | resumeWait =>
    simp only [EventStream.step] at hs
    split at hs <;> cases hs
    rename_i get hp
    have hlt : (StreamPoint.gathering get.done get.cancel).rank < 5 := by
      cases get <;> simp [StreamPoint.rank, GetTask.cancel]
    rw [hp]
    exact ⟨hc, rfl, hlt.le, fun _ _ => hlt⟩
  | resumeGather =>
    simp only [EventStream.step] at hs
    split at hs
    · rename_i done get hp
      split at hs
      · cases hs
        obtain ⟨hclosed, hframes, hrank⟩ := hloop s hc
        have hpos : 0 < (StreamPoint.gathering done get).rank := by cases get <;> simp [StreamPoint.rank]
        rw [hp, hrank]
        exact ⟨hclosed, hframes, Nat.zero_le _, fun _ _ => hpos⟩
      · cases hs
    · cases hs

theorem due_possible (h : s.Placed) (hr : s.point.rank ≠ 0) : (s.step s.point.due).isSome := by
  cases hp : s.point with
  | gathering done get =>
    cases get with
    | pending => exact absurd hp (h.gathering done)
    | cancelling => simp [EventStream.step, StreamPoint.due, hp]
    | completed e | cancelled =>
      simp only [EventStream.step, StreamPoint.due, hp, GetTask.finished, ↓reduceIte]
      split
      · rfl
      · cases done <;> rfl
  | ended => exact absurd (by rw [hp]; rfl) hr
  | _ => simp [EventStream.step, StreamPoint.due, hp]

section Runs

variable {e : Execution step} {n m : ℕ}

/-- Whatever the generator can do from some time on it does, and its consumer asks it for a frame. -/
def Fair (e : Execution step) : Prop := ∀ p : StreamPoint, e.WeaklyFair (fun s => (s.step p.due).isSome) (· = p.due)

theorem closed_persists (hc : (e.state n).streamsClosed = true) (hm : n ≤ m) :
    (e.state m).streamsClosed = true ∧ (e.state m).frames = (e.state n).frames :=
  Execution.persists (P := fun s : EventStream => s.streamsClosed = true ∧ s.frames = (e.state n).frames)
    (fun k _ ⟨hc, hf⟩ => have hs := closed_step hc (e.next k); ⟨hs.1, hs.2.1.trans hf⟩) ⟨hc, rfl⟩ hm

theorem ended_persists (hc : (e.state n).streamsClosed = true) (hz : (e.state n).point.rank = 0) (hm : n ≤ m) :
    (e.state m).point.rank = 0 :=
  (Execution.persists (P := fun s : EventStream => s.streamsClosed = true ∧ s.point.rank = 0)
    (fun k _ ⟨hc, hz⟩ => have hs := closed_step hc (e.next k); ⟨hs.1, Nat.le_zero.mp (hz ▸ hs.2.2.1)⟩) ⟨hc, hz⟩ hm).2

theorem comes_closer (hf : Fair e) (hplaced : ∀ m, (e.state m).Placed) (hc : (e.state n).streamsClosed = true)
    (hr : (e.state n).point.rank ≠ 0) : e.Eventually (fun s => s.point.rank < (e.state n).point.rank) n := by
  -- the due action stays the same until it is taken
  have hdue : ∀ m, (e.state m).point.rank = (e.state n).point.rank → (e.state m).point.due = (e.state n).point.due :=
    fun m hm => StreamPoint.due_eq hm hr
  refine (hf (e.state n).point).eventually (P := fun s => s.point.rank = (e.state n).point.rank) (fun m hm heq => ?_)
    (fun m hm heq ha => ?_) rfl (fun m _ heq => ?_)
  · have hs := closed_step (closed_persists hc hm).1 (e.next m)
    rw [heq] at hs
    exact hs.2.2.1.eq_or_lt
  · have hs := closed_step (closed_persists hc hm).1 (e.next m)
    rw [heq] at hs
    exact hs.2.2.2 hr (ha.trans (hdue m heq).symm)
  · rw [← hdue m heq]
    exact due_possible (hplaced m) (heq ▸ hr)

theorem stream_shuts_down (h0 : (e.state 0).Created) (hf : Fair e) (hc : (e.state n).streamsClosed = true) :
    (∀ m ≥ n, (e.state m).frames = (e.state n).frames) ∧
    ∃ k ≥ n, ∀ m ≥ k, (e.state m).point = .ended ∧ ∀ q ∈ (e.state m).out.bus.subscribers, q.1 ≠ (e.state m).queue := by
  have hplaced : ∀ m, (e.state m).Placed := fun m =>
    (Execution.reaches (.init h0) m).invariant (fun _ => created_placed) (fun _ _ _ hp _ => placed_step hp)
  have hend : e.Eventually (fun s => s.point.rank = 0) n := by
    refine Execution.eventually_of_rank (P := fun _ => True) (fun s => s.point.rank) (fun m hm _ => ?_) trivial
    by_cases hz : (e.state m).point.rank = 0
    · exact .of_now (.inl hz)
    · exact (comes_closer hf hplaced (closed_persists hc hm).1 hz).imp (fun _ _ hlt => .inr ⟨trivial, hlt⟩)
  obtain ⟨k, hk, hz⟩ := hend
  refine ⟨fun m hm => (closed_persists hc hm).2, k, hk, fun m hm => ?_⟩
  have hended : (e.state m).point = .ended :=
    StreamPoint.ended_of_rank (ended_persists (closed_persists hc hk).1 hz hm)
  exact ⟨hended, (hplaced m).ended hended⟩

end Runs

section Session

def closingAction : ℕ → StreamAction
  | 0 => .next
  | 1 => .closeStreams
  | 2 => .resumeWait
  | 3 => .run
  | 4 => .resumeGather
  | _ => .closeStreams

def closingState : ℕ → EventStream
  | 0 => smallStream
  | n + 1 => ((closingState n).step (closingAction n)).getD smallStream

def closingSession : Execution step where
  state := closingState
  action := closingAction
  next n := match n with
    | 0 | 1 | 2 | 3 | 4 => rfl
    | _ + 5 => rfl

theorem closingState_point (n : ℕ) : (closingState (n + 5)).point = .ended := by
  induction n with
  | zero => rfl
  | succ n ih => exact ih

theorem closingSession_fair : Fair closingSession := by
  intro p n hn
  have hpoint : (closingSession.state (n + 5)).point = .ended := closingState_point n
  have hdue := hn (n + 5) (Nat.le_add_right n 5)
  unfold StreamPoint.due at hdue
  split at hdue <;> simp [EventStream.step, hpoint] at hdue

theorem stream_shuts_down_waiting : ∃ k ≥ 2, ∀ m ≥ k, (closingSession.state m).point = .ended ∧
    ∀ q ∈ (closingSession.state m).out.bus.subscribers, q.1 ≠ (closingSession.state m).queue :=
  (stream_shuts_down ⟨.init ⟨2, 1, 0, by decide, by decide, rfl⟩, rfl, rfl, rfl, rfl⟩ closingSession_fair rfl).2

end Session

end EventStream

end PitbluCore
