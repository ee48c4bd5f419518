import PitbluCore.EventFanOut

namespace PitbluCore

open Library

/-- The task of `queue.get()`; a pending one has not run yet, waits for an event, or has been woken. -/
inductive GetTask
  | pending
  | completed (e : TelemetryEvent)
  | cancelling
  | cancelled
  deriving DecidableEq

namespace GetTask

def cancel : GetTask → GetTask
  | .pending => .cancelling
  | g => g

def done : GetTask → Bool
  | .completed _ => true
  | _ => false

def finished : GetTask → Bool
  | .completed _ | .cancelled => true
  | _ => false

end GetTask

inductive StreamPoint
  | starting
  | waiting (get : GetTask)
  | gathering (done : Bool) (get : GetTask)
  | yielding
  | ended
  deriving DecidableEq

def StreamPoint.waits : StreamPoint → Bool
  | .waiting _ | .gathering _ _ => true
  | _ => false

def StreamPoint.empty : StreamPoint → Bool
  | .waiting get => !get.done
  | .gathering done _ => !done
  | _ => false

inductive StreamFrame
  | heartbeat
  | event (e : TelemetryEvent)
  deriving DecidableEq

def StreamFrame.event? : StreamFrame → Option TelemetryEvent
  | .heartbeat => none
  | .event e => some e

/-- `wait` counts the waits; the frames that were yielded and the events that a get has taken carry the
wait they belong to. -/
structure EventStream where
  out : FanOut
  queue : ℕ
  streamsClosed : Bool
  point : StreamPoint
  wait : ℕ
  frames : List (ℕ × StreamFrame)
  taken : List (ℕ × TelemetryEvent)

inductive StreamAction
  | bus (a : BusAction)
  | closeStreams
  | next
  | run
  | resumeWait
  | resumeGather

namespace EventStream

variable (s : EventStream)

def loop : EventStream :=
  if s.streamsClosed then { s with point := .ended, out := { s.out with bus := s.out.bus.unsubscribe s.queue } }
  else { s with point := .waiting .pending, wait := s.wait + 1 }

def subscribe : EventStream :=
  { s with
    queue := s.out.bus.nextSubscriber
    out := { s.out with
      bus := s.out.bus.subscribe.1
      joined := Function.update s.out.joined s.out.bus.nextSubscriber s.out.bus.published.length } }

def yieldFrame (frame : StreamFrame) : EventStream :=
  { s with point := .yielding, frames := s.frames ++ [(s.wait, frame)] }

def runGet : EventStream :=
  match s.out.bus.get s.queue with
  | some (e, b) => { s with
      out := { s.out with bus := b }
      point := .waiting (.completed e)
      taken := s.taken ++ [(s.wait, e)] }
  | none => s

def foreign : BusAction → Bool
  | .get id | .unsubscribe id => id ≠ s.queue
  | _ => true

def step : StreamAction → Option EventStream
  | .bus a => if s.foreign a then (s.out.step a).map (fun out => { s with out := out }) else none
  | .closeStreams => some { s with streamsClosed := true }
  | .next =>
    match s.point with
    | .starting => some s.subscribe.loop
    | .yielding => some s.loop
    | _ => none
  | .run =>
    match s.point with
    | .waiting .pending => some s.runGet
    -- the CancelledError is raised in the get, which leaves the queue as it is
    | .gathering done .cancelling => some { s with point := .gathering done .cancelled }
    | _ => none
  | .resumeWait =>
    match s.point with
    | .waiting get => some { s with point := .gathering get.done get.cancel }
    | _ => none
  | .resumeGather =>
    match s.point with
    | .gathering done get =>
      if get.finished then
        if s.streamsClosed then some s.loop
        else match done, get with
          | true, .completed e => some (s.yieldFrame (.event e))
          | _, _ => some (s.yieldFrame .heartbeat)
      else none
    | _ => none

def Created (s : EventStream) : Prop :=
  Reachable FanOut.Opened FanOut.step s.out ∧ s.point = .starting ∧ s.streamsClosed = false ∧ s.frames = [] ∧
    s.taken = []

def yielded : List (ℕ × TelemetryEvent) := s.frames.filterMap (fun f => f.2.event?.map (fun e => (f.1, e)))

def inFlight : List (ℕ × TelemetryEvent) :=
  match s.point with
  | .waiting (.completed e) | .gathering true (.completed e) => [(s.wait, e)]
  | _ => []

structure Sound (s : EventStream) : Prop where
  out : s.out.Sound
  ledger : s.taken = s.yielded ++ s.inFlight
  ascending : (s.taken.map Prod.snd).Pairwise (fun e e' => e.eventId < e'.eventId)
  bound : ∀ p ∈ s.taken, p.1 ≤ s.wait ∧ p.2.eventId < s.out.bus.published.length
  ahead : ∀ p ∈ s.taken, ∀ x ∈ s.out.bus.queue s.queue, p.2.eventId < x.eventId
  fresh : ∀ f ∈ s.frames, f.1 ≤ s.wait ∧ (s.point.waits = true → f.1 < s.wait)
  empty : s.point.empty = true → ∀ e, (s.wait, e) ∉ s.taken
  heartbeats : ∀ w, (w, .heartbeat) ∈ s.frames → ∀ e, (w, e) ∉ s.taken
  reported : ∀ done g, s.point = .gathering done g → done = g.done ∧ g ≠ .pending
  starting : s.point = .starting → s.taken = []

section Steps

variable {s s' : EventStream} {e : TelemetryEvent}

theorem created_sound (h : s.Created) : s.Sound := by
  obtain ⟨hout, hpoint, -, hframes, htaken⟩ := h
  refine ⟨FanOut.reachable_sound hout, ?_, ?_, ?_, ?_, ?_, ?_, ?_, ?_, fun _ => htaken⟩
  · simp [yielded, inFlight, hframes, htaken, hpoint]
  · simp [htaken]
  · simp [htaken]
  · simp [htaken]
  · simp [hframes]
  · simp [htaken]
  · simp [hframes]
  · intro done g hg
    cases hpoint.symm.trans hg

theorem published_step {o o' : FanOut} {a : BusAction} (h : o.step a = some o') :
    o.bus.published.length ≤ o'.bus.published.length := by
  cases a with
  | get id =>
    obtain ⟨⟨e, b⟩, hb, rfl⟩ := Option.map_eq_some_iff.mp h
    obtain ⟨q, -, rfl⟩ := FanOut.get_cases hb
    exact le_rfl
  | publish =>
    cases h
    exact Nat.le_succ _
  | _ =>
    cases h
    exact le_rfl

theorem Sound.bus (h : s.Sound) {a : BusAction} {out : FanOut} (ha : s.foreign a = true)
    (hs : s.out.step a = some out) :
    ({ s with out := out } : EventStream).Sound := by
  refine ⟨h.out.step hs, h.ledger, h.ascending, fun p hp => ?_, fun p hp x hx => ?_, h.fresh, h.empty, h.heartbeats,
    h.reported, h.starting⟩
  · exact ⟨(h.bound p hp).1, (h.bound p hp).2.trans_le (published_step hs)⟩
  · have hg : a ≠ .get s.queue := by
      rintro rfl
      simp [foreign] at ha
    have hu : a ≠ .unsubscribe s.queue := by
      rintro rfl
      simp [foreign] at ha
    rcases h.out.isolated hs hg hu with hq | ⟨new, -, hid, hq⟩
    · exact h.ahead p hp x (hq ▸ hx)
    · have hx' : x ∈ pushBounded s.out.bus.subscriberQueueSize (s.out.bus.queue s.queue) new := hq ▸ hx
      rcases mem_of_mem_pushBounded hx' with hx' | rfl
      · exact h.ahead p hp x hx'
      · rw [hid]
        exact (h.bound p hp).2

theorem Sound.loop (h : s.Sound) (hc : s.streamsClosed = false) (hf : s.inFlight = []) : s.loop.Sound := by
  unfold EventStream.loop
  rw [if_neg (by simp [hc])]
  refine ⟨h.out, ?_, h.ascending, fun p hp => ?_, h.ahead, fun f hf => ?_, fun _ e he => ?_, h.heartbeats, ?_, ?_⟩
  · rw [h.ledger, hf]
    rfl
  · exact ⟨(h.bound p hp).1.trans (Nat.le_succ _), (h.bound p hp).2⟩
  · have hle := (h.fresh f hf).1
    exact ⟨hle.trans (Nat.le_succ _), fun _ => Nat.lt_succ_of_le hle⟩
  · exact absurd (h.bound _ he).1 (by simp)
  · intro done g hg
    cases hg
  · intro hx
    cases hx

theorem Sound.subscribe (h : s.Sound) (hp : s.point = .starting) : s.subscribe.Sound := by
  have htaken : s.taken = [] := h.starting hp
  refine ⟨h.out.subscribe, h.ledger, h.ascending, fun p hp => ?_, fun p hp => ?_, h.fresh, h.empty, h.heartbeats,
    h.reported, h.starting⟩
  · exact h.bound p hp
  · have hp' : p ∈ s.taken := hp
    rw [htaken] at hp'
    cases hp'

theorem Sound.runGet (h : s.Sound) (hp : s.point = .waiting .pending) : s.runGet.Sound := by
  unfold EventStream.runGet
  split
  · rename_i e b hb
    have hs : s.out.step (.get s.queue) = some { s.out with bus := b } := by simp [FanOut.step, hb]
    obtain ⟨hqueue, -⟩ := FanOut.queue_get hb
    have hempty : ∀ x, (s.wait, x) ∉ s.taken := h.empty (by rw [hp]; rfl)
    have hmem : e ∈ s.out.bus.queue s.queue := hqueue ▸ List.mem_cons_self
    have hasc := h.out.queue_ascending s.queue
    rw [hqueue] at hasc
    refine ⟨h.out.step hs, ?_, ?_, fun p hp' => ?_, fun p hp' x hx => ?_, fun f hf => ?_, fun hx => (by cases hx),
      fun w hw x hx => ?_, fun done g hg => (by cases hg), fun hx => (by cases hx)⟩
    · have hflight : s.inFlight = [] := by simp [inFlight, hp]
      rw [h.ledger, hflight, List.append_nil]
      rfl
    · rw [List.map_append]
      refine List.pairwise_append.mpr ⟨h.ascending, List.pairwise_singleton _ _, fun x hx y hy => ?_⟩
      obtain ⟨p, hp', rfl⟩ := List.mem_map.mp hx
      rw [List.mem_singleton.mp hy]
      exact h.ahead p hp' e hmem
    · rcases List.mem_append.mp hp' with hp' | hp'
      · exact ⟨(h.bound p hp').1, (h.bound p hp').2.trans_le (published_step hs)⟩
      · obtain rfl := List.mem_singleton.mp hp'
        exact ⟨le_rfl, (h.out.bound e (h.out.mem_published hmem)).trans_le (published_step hs)⟩
    · rcases List.mem_append.mp hp' with hp' | hp'
      · exact h.ahead p hp' x (hqueue ▸ List.mem_cons_of_mem _ hx)
      · obtain rfl := List.mem_singleton.mp hp'
        exact (List.pairwise_cons.mp hasc).1 x hx
    · exact ⟨(h.fresh f hf).1, fun _ => (h.fresh f hf).2 (by rw [hp]; rfl)⟩
    · rcases List.mem_append.mp hx with hx | hx
      · exact h.heartbeats w hw x hx
      · obtain ⟨rfl, -⟩ := Prod.mk.inj (List.mem_singleton.mp hx)
        exact absurd ((h.fresh _ hw).2 (by rw [hp]; rfl)) (lt_irrefl _)
  · exact h

theorem Sound.cancelled (h : s.Sound) {done : Bool} (hp : s.point = .gathering done .cancelling) :
    ({ s with point := .gathering done .cancelled } : EventStream).Sound := by
  obtain ⟨rfl, -⟩ := h.reported done _ hp
  have hflight : s.inFlight = [] := by simp [inFlight, hp]
  refine ⟨h.out, ?_, h.ascending, h.bound, h.ahead, fun f hf => ?_, fun _ => h.empty (by rw [hp]; rfl), h.heartbeats,
    fun done g hg => ?_, fun hx => (by cases hx)⟩
  · rw [h.ledger, hflight]
    rfl
  · exact ⟨(h.fresh f hf).1, fun _ => (h.fresh f hf).2 (by rw [hp]; rfl)⟩
  · cases hg
    exact ⟨rfl, by simp⟩

theorem Sound.resumeWait (h : s.Sound) {get : GetTask} (hp : s.point = .waiting get) :
    ({ s with point := .gathering get.done get.cancel } : EventStream).Sound := by
  refine ⟨h.out, ?_, h.ascending, h.bound, h.ahead, fun f hf => ?_, fun hx => ?_, h.heartbeats, fun done g hg => ?_,
    fun hx => (by cases hx)⟩
  · rw [h.ledger]
    cases get <;> simp [inFlight, hp, yielded, GetTask.done, GetTask.cancel]
  · exact ⟨(h.fresh f hf).1, fun _ => (h.fresh f hf).2 (by rw [hp]; rfl)⟩
  · exact h.empty (by rw [hp]; exact hx)
  · cases hg
    cases get <;> simp [GetTask.done, GetTask.cancel]

theorem Sound.yieldFrame (h : s.Sound) {done : Bool} {get : GetTask} {frame : StreamFrame}
    (hp : s.point = .gathering done get)
    (hf : frame.event?.toList.map (fun e => (s.wait, e)) = s.inFlight) (hb : frame = .heartbeat → done = false) :
    (s.yieldFrame frame).Sound := by
  have hyield : (s.yieldFrame frame).yielded = s.yielded ++ s.inFlight := by
    rw [← hf]
    simp only [yielded, EventStream.yieldFrame, List.filterMap_append, List.append_cancel_left_eq]
    cases frame <;> rfl
  refine ⟨h.out, ?_, h.ascending, h.bound, h.ahead, fun f hf => ?_, fun hx => (by cases hx), fun w hw x hx => ?_,
    fun done g hg => (by cases hg), fun hx => (by cases hx)⟩
  · rw [hyield]
    exact h.ledger.trans (List.append_nil _).symm
  · refine ⟨?_, fun hx => (by cases hx)⟩
    rcases List.mem_append.mp hf with hf | hf
    · exact (h.fresh f hf).1
    · rw [List.mem_singleton.mp hf]
      exact le_rfl
  · rcases List.mem_append.mp hw with hw | hw
    · exact h.heartbeats w hw x hx
    · obtain ⟨rfl, rfl⟩ := Prod.mk.inj (List.mem_singleton.mp hw)
      have hdone := hb rfl
      exact h.empty (by rw [hp, hdone]; rfl) x hx

theorem streamsClosed_loop (s : EventStream) : s.loop.streamsClosed = s.streamsClosed := by
  unfold EventStream.loop
  split <;> rfl

theorem streamsClosed_step {a : StreamAction} (hs : s.step a = some s') (hc : s'.streamsClosed = false) :
    s.streamsClosed = false := by
  cases a with
  | bus a =>
    simp only [EventStream.step] at hs
    split at hs
    · obtain ⟨out, -, rfl⟩ := Option.map_eq_some_iff.mp hs
      exact hc
    · cases hs
  | closeStreams =>
    cases hs
    cases hc
  | next =>
    simp only [EventStream.step] at hs
    split at hs <;> cases hs
    · rwa [streamsClosed_loop] at hc
    · rwa [streamsClosed_loop] at hc
  | run =>
    simp only [EventStream.step] at hs
    split at hs <;> cases hs
    · unfold EventStream.runGet at hc
      split at hc <;> exact hc
    · exact hc
  | resumeWait =>
    simp only [EventStream.step] at hs
    split at hs <;> cases hs
    exact hc
  | resumeGather =>
    simp only [EventStream.step] at hs
    split at hs
    · split at hs
      · split at hs
        · cases hs
          rwa [streamsClosed_loop] at hc
        · split at hs <;> cases hs <;> exact hc
      · cases hs
    · cases hs

theorem Sound.step (h : s.Sound) {a : StreamAction} (hs : s.step a = some s') (hc : s'.streamsClosed = false) :
    s'.Sound := by
  have hc₀ := streamsClosed_step hs hc
  cases a with
  | bus a =>
    simp only [EventStream.step] at hs
    split at hs
    · rename_i ha
      obtain ⟨out, hout, rfl⟩ := Option.map_eq_some_iff.mp hs
      exact h.bus ha hout
    · cases hs
  | closeStreams =>
    cases hs
    cases hc
  | next =>
    simp only [EventStream.step] at hs
    split at hs
    · rename_i hp
      cases hs
      exact (h.subscribe hp).loop hc₀ (by simp [inFlight, EventStream.subscribe, hp])
    · rename_i hp
      cases hs
      exact h.loop hc₀ (by simp [inFlight, hp])
    · cases hs
  | run =>
    simp only [EventStream.step] at hs
    split at hs
    · rename_i hp
      cases hs
      exact h.runGet hp
    · rename_i hp
      cases hs
      exact h.cancelled hp
    · cases hs
  | resumeWait =>
    simp only [EventStream.step] at hs
    split at hs
    · rename_i hp
      cases hs
      exact h.resumeWait hp
    · cases hs
  | resumeGather =>
    simp only [EventStream.step] at hs
    split at hs
    · rename_i done get hp
      split at hs
      · rename_i hfin
        rw [if_neg (by simp [hc₀])] at hs
        obtain ⟨rfl, -⟩ := h.reported done get hp
        cases get with
        | completed e =>
          cases hs
          exact h.yieldFrame hp (by simp [StreamFrame.event?, inFlight, hp, GetTask.done]) (fun hx => by cases hx)
        | cancelled =>
          cases hs
          exact h.yieldFrame hp (by simp [StreamFrame.event?, inFlight, hp]) (fun _ => rfl)
        | pending | cancelling => cases hfin
      · cases hs
    · cases hs

end Steps

section Results

variable {s : EventStream}

theorem reachable_sound (h : Reachable Created step s) : s.streamsClosed = false → s.Sound := by
  refine Reaches.invariant (I := fun s => s.streamsClosed = false → s.Sound) (fun _ hs _ => created_sound hs) ?_ h
  intro s a s' hi _ hs hc
  exact (hi (streamsClosed_step hs hc)).step hs hc

def StreamAction.own (a : StreamAction) : Prop := a = .resumeWait ∨ a = .resumeGather

theorem Sound.delivered (h : s.Sound) (hc : s.streamsClosed = false) :
    ∃ actions s', (∀ a ∈ actions, StreamAction.own a) ∧
    replay EventStream.step s actions = some s' ∧ s'.streamsClosed = false ∧ s'.yielded = s.taken := by
  have hledger := h.ledger
  cases hp : s.point with
  | waiting get =>
    cases get with
    | completed e =>
      refine ⟨[.resumeWait, .resumeGather],
        ({ s with point := .gathering true (.completed e) } : EventStream).yieldFrame (.event e),
        ?_, ?_, hc, ?_⟩
      · simp [StreamAction.own]
      · simp [replay, EventStream.step, hp, GetTask.done, GetTask.cancel, GetTask.finished, hc]
      · rw [hledger]
        simp [inFlight, hp, yielded, EventStream.yieldFrame, StreamFrame.event?]
    | pending | cancelling | cancelled =>
      refine ⟨[], s, by simp, rfl, hc, ?_⟩
      rw [hledger]
      simp [inFlight, hp]
  | gathering done get =>
    obtain ⟨rfl, -⟩ := h.reported done get hp
    cases get with
    | completed e =>
      refine ⟨[.resumeGather], s.yieldFrame (.event e), ?_, ?_, hc, ?_⟩
      · simp [StreamAction.own]
      · simp [replay, EventStream.step, hp, GetTask.done, GetTask.finished, hc]
      · rw [hledger]
        simp [inFlight, hp, yielded, EventStream.yieldFrame, StreamFrame.event?, GetTask.done]
    | pending | cancelling | cancelled =>
      refine ⟨[], s, by simp, rfl, hc, ?_⟩
      rw [hledger]
      simp [inFlight, hp]
  | starting | yielding | ended =>
    refine ⟨[], s, by simp, rfl, hc, ?_⟩
    rw [hledger]
    simp [inFlight, hp]

structure Delivers (s : EventStream) : Prop where
  ledger : s.taken = s.yielded ++ s.inFlight
  ordered : (s.taken.map Prod.snd).Pairwise (fun e e' => e.eventId < e'.eventId)
  heartbeats : ∀ w, (w, .heartbeat) ∈ s.frames → ∀ e, (w, e) ∉ s.taken
  delivered : ∃ actions s', (∀ a ∈ actions, StreamAction.own a) ∧ replay step s actions = some s' ∧
    s'.streamsClosed = false ∧ s'.yielded = s.taken

theorem stream_drops_nothing (h : Reachable Created step s) (hc : s.streamsClosed = false) : s.Delivers := by
  have hs : s.Sound := reachable_sound h hc
  exact ⟨hs.ledger, hs.ascending, hs.heartbeats, hs.delivered hc⟩

def smallStream : EventStream := ⟨FanOut.smallBus, 0, false, .starting, 0, [], []⟩

def wokenLate : List StreamAction :=
  [.next, .run, .bus (.publish ⟨0, none, .battery, 0, 1, .simulated, some "a", none, []⟩), .resumeWait, .run,
    .resumeGather,
    .next, .run, .resumeWait, .resumeGather]

theorem stream_drops_nothing_late : ∃ s, replay step smallStream wokenLate = some s ∧
    s.frames.map (fun f => f.2.event?.map TelemetryEvent.sequence) = [none, some 1] ∧ s.Delivers := by
  have hcreated : smallStream.Created := ⟨.init ⟨2, 1, 0, by decide, by decide, rfl⟩, rfl, rfl, rfl, rfl⟩
  obtain ⟨s, hs⟩ : ∃ s, replay step smallStream wokenLate = some s := ⟨_, rfl⟩
  have hr : Reachable Created step s := .of_replay (.init hcreated) hs
  refine ⟨s, hs, ?_, stream_drops_nothing hr ?_⟩
  · cases hs
    decide
  · cases hs
    rfl

end Results

end EventStream

end PitbluCore
