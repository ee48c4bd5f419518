import PitbluCore.EventFanOut
import PitbluCore.MqttTopics

namespace PitbluCore

open Library

def lastOf (k : EventKey) (l : List TelemetryEvent) : Option TelemetryEvent :=
  (l.filter (fun e => e.key = k)).getLast?

section LastOf

variable {k : EventKey} {e e' : TelemetryEvent} {l l' : List TelemetryEvent}

theorem lastOf_append : lastOf k (l ++ l') = (lastOf k l').or (lastOf k l) := by
  simp [lastOf, List.getLast?_append]

theorem lastOf_cons : lastOf k (e :: l) = (lastOf k l).or (if e.key = k then some e else none) := by
  rw [← List.singleton_append, lastOf_append]
  by_cases h : e.key = k <;> simp [lastOf, h]

@[simp] theorem lastOf_nil : lastOf k [] = none := rfl

theorem lastOf_filter {p : TelemetryEvent → Bool} (h : ∀ e ∈ l, e.key = k → p e) :
    lastOf k (l.filter p) = lastOf k l := by
  unfold lastOf
  rw [List.filter_filter]
  congr 1
  refine List.filter_congr fun e he => ?_
  by_cases hk : e.key = k
  · simp [hk, h e he hk]
  · simp [hk]

theorem lastOf_eq_some_of (hm : e ∈ l) (hk : e.key = k) (hu : ∀ e' ∈ l, e'.key = k → e' = e) :
    lastOf k l = some e := by
  have hmem : e ∈ l.filter (fun e => e.key = k) := List.mem_filter.mpr ⟨hm, by simpa using hk⟩
  unfold lastOf
  rw [List.getLast?_eq_some_getLast (List.ne_nil_of_mem hmem)]
  have hlast := List.getLast_mem (List.ne_nil_of_mem hmem)
  obtain ⟨hl, hkey⟩ := List.mem_filter.mp hlast
  rw [hu _ hl (by simpa using hkey)]

theorem lastOf_tail (h : lastOf k l = some e) : e ∈ l.take 1 ∨ lastOf k l.tail = some e := by
  cases l with
  | nil => cases h
  | cons a l =>
    rw [lastOf_cons] at h
    cases hl : lastOf k l with
    | some e' =>
      rw [hl] at h
      exact .inr (hl.trans h)
    | none =>
      rw [hl] at h
      split at h
      · cases h
        exact .inl (by simp)
      · cases h

theorem lastOf_tail_none (h : lastOf k l = none) : lastOf k l.tail = none := by
  cases l with
  | nil => rfl
  | cons a l =>
    rw [lastOf_cons] at h
    cases hl : lastOf k l with
    | some e' =>
      rw [hl] at h
      cases h
    | none => exact hl

end LastOf

namespace MqttRun

def pending (s : MqttRun) : List TelemetryEvent :=
  match s.pc with
  | .replaying e rest => e :: rest
  | .publishing e => [e]
  | _ => []

def upcoming (s : MqttRun) : List TelemetryEvent := s.pending ++ s.queue

def lastPayload (s : MqttRun) (e : TelemetryEvent) : Option Payload :=
  (topicFor s.baseTopic e).bind (fun topic => s.sent.lookup topic)

/-- The broker will have the event `e` of key `k`, or has it already. -/
def Settled (s : MqttRun) (k : EventKey) (e : TelemetryEvent) : Prop :=
  lastOf k s.upcoming = some e ∨ (lastOf k s.upcoming = none ∧ s.lastPayload e = some (mqttPayload e))

def connected (s : MqttRun) : Bool :=
  match s.pc with
  | .disconnected | .closing _ | .stopped => false
  | _ => true

structure Sound (s : MqttRun) : Prop where
  subscribed : s.bus.subscribers = if s.connected then [(s.queueId, s.queue)] else []
  latest : ∀ k e, s.bus.latest.get? k = some e → e.key = k ∧ WellFormed e ∧ e.type.keepsLatest
  queued : ∀ e ∈ s.queue, WellFormed e

structure Tidy (s : MqttRun) : Prop where
  sound : s.Sound
  pending : ∀ e ∈ s.pending, WellFormed e ∧ e.type.isTelemetry
  announced : ∀ p, s.pc = .announcing p → ∀ k e e', s.bus.latest.get? k = some e → lastOf k s.queue = some e' → e' = e
  settled : s.replayed → ∀ k e, s.bus.latest.get? k = some e → e.type ≠ .serviceAvailability →
    e ∉ s.evicted → s.Settled k e

theorem keepsLatest_isTelemetry {t : EventType} (h : t.keepsLatest) : t.isTelemetry := by
  cases t <;> first | rfl | cases h

section Payload

variable {s : MqttRun} {c e : TelemetryEvent}

theorem lastPayload_recordEvent (hc : WellFormed c) (hct : c.type.isTelemetry) (he : WellFormed e)
    (het : e.type.isTelemetry) :
    (s.recordEvent c).lastPayload e = if c.key = e.key then some (mqttPayload c) else s.lastPayload e := by
  obtain ⟨t, ht, -⟩ := topicFor_eq (b := s.baseTopic) hc hct
  obtain ⟨t', ht', -⟩ := topicFor_eq (b := s.baseTopic) he het
  have hsent : (s.recordEvent c).sent = (t, mqttPayload c) :: s.sent := by simp [recordEvent, ht, record]
  have hbase : (s.recordEvent c).baseTopic = s.baseTopic := by simp [recordEvent, ht, record]
  simp only [lastPayload, hbase, ht', Option.bind_some, hsent, lookup_cons_ite]
  by_cases hk : c.key = e.key
  · have htt : t' = t := by
      obtain ⟨u, hu, hul⟩ := topicFor_eq (b := s.baseTopic) hc hct
      obtain ⟨u', hu', hul'⟩ := topicFor_eq (b := s.baseTopic) he het
      cases ht.symm.trans hu
      cases ht'.symm.trans hu'
      rw [← String.toList_inj, hul, hul', hk]
    simp [hk, htt]
  · have htt : t' ≠ t := by
      rintro rfl
      exact hk (topicFor_key hc he hct het (ht.trans ht'.symm))
    simp [hk, htt]

theorem lastPayload_recordService {payload : Payload} (he : WellFormed e) (het : e.type.isTelemetry)
    (hs : e.type ≠ .serviceAvailability) :
    (s.record s.availabilityTopic payload).lastPayload e = s.lastPayload e := by
  obtain ⟨t, ht, -⟩ := topicFor_eq (b := s.baseTopic) he het
  have htt : t ≠ s.availabilityTopic := by
    rintro rfl
    have hkey := topicFor_key (b := s.baseTopic) (e := ⟨0, none, .serviceAvailability, 0, 0, .physical, none, none, []⟩)
      ⟨rfl, rfl⟩ he rfl het ht.symm
    exact hs (congrArg (fun k => k.2.1) hkey).symm
  simp [lastPayload, record, ht, lookup_cons_ite, htt]

end Payload

theorem Sound.congr {s t : MqttRun} (h : Sound s) (hb : t.bus = s.bus) (hq : t.queueId = s.queueId)
    (hc : t.connected = s.connected) : Sound t where
  subscribed := by rw [hb, hc, queue, hq, hb]; exact h.subscribed
  latest := by rw [hb]; exact h.latest
  queued := by rw [queue, hq, hb]; exact h.queued

theorem Sound.unsubscribe {s t : MqttRun} (h : Sound s) (hb : t.bus = s.bus.unsubscribe s.queueId)
    (hc : t.connected = false) : Sound t := by
  have hnil : t.bus.subscribers = [] := by
    have hsub := h.subscribed
    rw [hb]
    split at hsub <;> simp [EventBus.unsubscribe, hsub]
  have hqueue : t.queue = [] := by rw [queue, EventBus.queue, hnil, List.lookup_nil, Option.getD_none]
  refine ⟨by rw [hnil, if_neg (by simp [hc])], ?_, by simp [hqueue]⟩
  rw [hb]
  exact h.latest

theorem Sound.tidy {s : MqttRun} (h : Sound s) (hp : s.pending = []) (ha : ∀ p, s.pc ≠ .announcing p)
    (hr : s.replayed = false) : Tidy s where
  sound := h
  pending := by simp [hp]
  announced := fun p hpc => absurd hpc (ha p)
  settled := by simp [hr]

section Publish

variable {s : MqttRun} {event : TelemetryEvent}

def stamp (s : MqttRun) (event : TelemetryEvent) : TelemetryEvent :=
  { event with sessionId := some s.bus.sessionId, eventId := s.bus.published.length }

theorem publish_latest (k : EventKey) : (s.publish event).bus.latest.get? k =
    if event.type.keepsLatest ∧ k = event.key then some (s.stamp event) else s.bus.latest.get? k := by
  by_cases ht : event.type.keepsLatest
  · by_cases hk : k = event.key
    · simp [publish, EventBus.publish, ht, hk, stamp, TelemetryEvent.key]
    · have hne : k ≠ (s.stamp event).key := hk
      simp only [publish, EventBus.publish, ht, ↓reduceIte, true_and, hk]
      rw [Dict.get?_set]
      exact if_neg hne
  · simp [publish, EventBus.publish, ht]

theorem stamp_key_ne (h : Sound s) {k : EventKey} {e : TelemetryEvent} (hget : s.bus.latest.get? k = some e)
    (hk : ¬(event.type.keepsLatest ∧ k = event.key)) : (s.stamp event).key ≠ k := by
  intro hkey
  obtain ⟨hek, -, ht⟩ := h.latest k e hget
  have hty : e.type = event.type := congrArg (fun k => k.2.1) (hek.trans hkey.symm)
  exact hk ⟨hty ▸ ht, hkey.symm⟩

theorem publish_queue (h : Sound s) : (s.publish event).queue =
    if s.connected then pushBounded s.bus.subscriberQueueSize s.queue (s.stamp event) else [] := by
  have hsub := h.subscribed
  change ((s.bus.subscribers.map fun q => (q.1, pushBounded s.bus.subscriberQueueSize q.2 (s.stamp event))).lookup
    s.queueId).getD [] = _
  rw [hsub]
  by_cases hc : s.connected <;> simp [hc]

theorem publish_sound (h : Sound s) (hw : WellFormed event) : Sound (s.publish event) where
  subscribed := by
    have hconn : (s.publish event).connected = s.connected := rfl
    rw [hconn, publish_queue h]
    have hsub := h.subscribed
    change (s.bus.subscribers.map fun q => (q.1, pushBounded s.bus.subscriberQueueSize q.2 (s.stamp event))) = _
    rw [hsub]
    by_cases hc : s.connected <;> simp [hc, publish]
  latest := fun k e he => by
    rw [publish_latest] at he
    split at he
    · rename_i hk
      cases he
      exact ⟨hk.2.symm, hw, hk.1⟩
    · exact h.latest k e he
  queued := fun e he => by
    rw [publish_queue h] at he
    split at he
    · rcases mem_of_mem_pushBounded he with hq | rfl
      · exact h.queued e hq
      · exact hw
    · cases he

theorem lastOf_pushBounded {k : EventKey} {n : ℕ} {q : List TelemetryEvent} {a : TelemetryEvent} (hk : a.key ≠ k) :
    lastOf k (pushBounded n q a) = lastOf k (if q.length < n then q else q.tail) := by
  rw [pushBounded, lastOf_append]
  simp [lastOf_cons, hk]

theorem lastOf_dropped {k : EventKey} {e : TelemetryEvent} {n : ℕ} {q : List TelemetryEvent}
    (h : lastOf k (if q.length < n then q else q.tail) = some e) : lastOf k q = some e := by
  split at h
  · exact h
  · cases q with
    | nil => exact h
    | cons a q =>
      rw [lastOf_cons]
      simp only [List.tail_cons] at h
      rw [h]
      rfl

theorem publish_settled (h : Tidy s) (hr : s.replayed) {k : EventKey} {e : TelemetryEvent}
    (hget : (s.publish event).bus.latest.get? k = some e) (hs : e.type ≠ .serviceAvailability)
    (he : e ∉ (s.publish event).evicted) : (s.publish event).Settled k e := by
  have hconn : s.connected := by
    unfold replayed at hr
    unfold connected
    split at hr <;> simp_all
  have hpend : (s.publish event).pending = s.pending := rfl
  have hpay : (s.publish event).lastPayload e = s.lastPayload e := rfl
  unfold Settled upcoming
  rw [hpend, hpay, publish_queue h.sound, if_pos hconn]
  rw [publish_latest] at hget
  split at hget
  · rename_i hk
    cases hget
    left
    have hkey : (s.stamp event).key = k := hk.2.symm
    rw [lastOf_append, pushBounded, lastOf_append]
    simp [lastOf_cons, hkey]
  · rename_i hk
    have hne := stamp_key_ne h.sound hget hk
    have hev : (s.publish event).evicted = s.overflow ++ s.evicted := by simp [publish, hr]
    rw [hev, List.mem_append, not_or] at he
    rw [lastOf_append, lastOf_pushBounded hne]
    have hset := h.settled hr k e hget hs he.2
    unfold Settled upcoming at hset
    rw [lastOf_append] at hset
    unfold overflow at he
    by_cases hfull : s.queue.length < s.bus.subscriberQueueSize
    · simpa only [hfull, ↓reduceIte] using hset
    · simp only [hfull, ↓reduceIte] at he ⊢
      cases hq : lastOf k s.queue with
      | none =>
        rw [hq] at hset
        rwa [lastOf_tail_none hq]
      | some e' =>
        rw [hq] at hset
        have hee : e' = e := by simpa using hset
        subst hee
        rcases lastOf_tail hq with hhead | htail
        · exact absurd hhead he.1
        · simp [htail]

theorem publish_tidy (h : Tidy s) (hw : WellFormed event) : Tidy (s.publish event) where
  sound := publish_sound h.sound hw
  pending := h.pending
  announced := fun p hp k e e' hget hq => by
    have hconn : s.connected := by
      unfold connected
      rw [show s.pc = _ from hp]
    rw [publish_queue h.sound, if_pos hconn] at hq
    rw [publish_latest] at hget
    split at hget
    · rename_i hk
      cases hget
      have hkey : (s.stamp event).key = k := hk.2.symm
      rw [pushBounded, lastOf_append] at hq
      simpa [lastOf_cons, hkey, eq_comm] using hq
    · rename_i hk
      rw [lastOf_pushBounded (stamp_key_ne h.sound hget hk)] at hq
      exact h.announced p hp k e e' hget (lastOf_dropped hq)
  settled := fun hr k e hget hs he => publish_settled h hr hget hs he

end Publish

section Replay

variable {s : MqttRun} {events : List TelemetryEvent} {now : Time}

theorem mem_replayable {e : TelemetryEvent} (h : e ∈ replayable events) : e ∈ events ∧ e.type.isTelemetry := by
  obtain ⟨hm, hp⟩ := List.mem_filter.mp h
  exact ⟨hm, (Bool.and_eq_true_iff.mp hp).2⟩

theorem lastOf_replayable {k : EventKey} {e : TelemetryEvent} (hk : e.key = k) (hs : e.type ≠ .serviceAvailability)
    (ht : e.type.isTelemetry) : lastOf k (replayable events) = lastOf k events := by
  refine lastOf_filter fun e' _ hk' => ?_
  have hty : e'.type = e.type := congrArg (fun k => k.2.1) (hk'.trans hk.symm)
  simp [hty, hs, ht]

theorem replay_tidy (h : Sound s) (hc : s.connected) (hw : ∀ e ∈ events, WellFormed e)
    (hset : ∀ k e, s.bus.latest.get? k = some e → e.type ≠ .serviceAvailability → e ∉ s.evicted →
      lastOf k (events ++ s.queue) = some e ∨
        (lastOf k (events ++ s.queue) = none ∧ s.lastPayload e = some (mqttPayload e))) :
    Tidy (s.replay events now) := by
  have hset' : ∀ k e, s.bus.latest.get? k = some e → e.type ≠ .serviceAvailability → e ∉ s.evicted →
      lastOf k (replayable events ++ s.queue) = some e ∨
        (lastOf k (replayable events ++ s.queue) = none ∧ s.lastPayload e = some (mqttPayload e)) := by
    intro k e hget hs he
    obtain ⟨hk, -, ht⟩ := h.latest k e hget
    rw [lastOf_append, lastOf_replayable hk hs (keepsLatest_isTelemetry ht), ← lastOf_append]
    exact hset k e hget hs he
  unfold replay
  cases hl : replayable events with
  | nil =>
    rw [hl] at hset'
    exact ⟨h.congr rfl rfl hc.symm, fun e he => absurd he List.not_mem_nil, fun p hp => (by cases hp), fun _ => hset'⟩
  | cons e rest =>
    have hmem : ∀ e' ∈ e :: rest, WellFormed e' ∧ e'.type.isTelemetry := by
      intro e' he'
      obtain ⟨hm, ht⟩ := mem_replayable (hl ▸ he')
      exact ⟨hw e' hm, ht⟩
    obtain ⟨t, ht, -⟩ := topicFor_eq (b := s.baseTopic) (hmem e List.mem_cons_self).1 (hmem e List.mem_cons_self).2
    rw [hl] at hset'
    simp only [ht, Option.isSome_some, ↓reduceIte]
    exact ⟨h.congr rfl rfl hc.symm, hmem, fun p hp => (by cases hp), fun _ => hset'⟩

theorem finish_tidy (h : Sound s) : Tidy (s.finish now) :=
  Sound.tidy (h.unsubscribe rfl rfl) rfl (fun p hp => (by cases hp)) rfl

theorem flush_tidy (h : Sound s) (hc : s.connected) : Tidy (s.flush events now) := by
  unfold flush
  split
  · exact finish_tidy h
  · split
    · exact Sound.tidy (h.congr rfl rfl hc.symm) rfl (fun p hp => (by cases hp)) rfl
    · exact finish_tidy h

theorem record_sound {topic : String} {payload : Payload} (h : Sound s) : Sound (s.record topic payload) :=
  h.congr rfl rfl rfl

theorem recordEvent_sound {e : TelemetryEvent} (h : Sound s) : Sound (s.recordEvent e) := by
  unfold recordEvent
  split
  · exact record_sound h
  · exact h

theorem recordEvent_same (s : MqttRun) (e : TelemetryEvent) : (s.recordEvent e).bus = s.bus ∧
    (s.recordEvent e).queue = s.queue ∧ (s.recordEvent e).evicted = s.evicted ∧ (s.recordEvent e).pc = s.pc ∧
    (s.recordEvent e).queueId = s.queueId := by
  unfold recordEvent
  split <;> exact ⟨rfl, rfl, rfl, rfl, rfl⟩

theorem recordEvent_settled {c e : TelemetryEvent} {rest : List TelemetryEvent} {k : EventKey} (h : Sound s)
    (hc : WellFormed c ∧ c.type.isTelemetry) (hget : s.bus.latest.get? k = some e)
    (hset : lastOf k (c :: rest ++ s.queue) = some e ∨
      (lastOf k (c :: rest ++ s.queue) = none ∧ s.lastPayload e = some (mqttPayload e))) :
    lastOf k (rest ++ s.queue) = some e ∨
      (lastOf k (rest ++ s.queue) = none ∧ (s.recordEvent c).lastPayload e = some (mqttPayload e)) := by
  obtain ⟨hk, hw, ht⟩ := h.latest k e hget
  rw [lastPayload_recordEvent hc.1 hc.2 hw (keepsLatest_isTelemetry ht)]
  rw [List.cons_append, lastOf_cons] at hset
  cases hl : lastOf k (rest ++ s.queue) with
  | some e' =>
    rw [hl] at hset
    simpa using hset
  | none =>
    rw [hl] at hset
    by_cases hck : c.key = k
    · have hce : c = e := by simpa [hck] using hset
      subst hce
      simp
    · have hne : c.key ≠ e.key := hk ▸ hck
      have hpay : s.lastPayload e = some (mqttPayload e) := by simpa [hck] using hset
      simp [hne, hpay]

end Replay

section Steps

variable {s t : MqttRun} {now : Time}

theorem announcing_tidy {payload : Payload} (h : Tidy s) (hpc : s.pc = .announcing payload) :
    Tidy ((s.record s.availabilityTopic payload).replay s.bus.retainedState now) := by
  have hconn : s.connected := by simp [connected, hpc]
  refine replay_tidy (record_sound h.sound) hconn (fun e he => ?_) (fun k e hget hs _ => .inl ?_)
  · obtain ⟨k, hk⟩ := Dict.mem_values_iff.mp he
    exact (h.sound.latest k e hk).2.1
  · -- the replay list holds the latest event, and nothing older follows it in the queue
    have hval : lastOf k s.bus.latest.values = some e := by
      refine lastOf_eq_some_of (Dict.mem_values_iff.mpr ⟨k, hget⟩) (h.sound.latest k e hget).1 fun e' he' hk' => ?_
      obtain ⟨k', hget'⟩ := Dict.mem_values_iff.mp he'
      have hkk : k' = k := (h.sound.latest k' e' hget').1.symm.trans hk'
      subst hkk
      exact Option.some.inj (hget'.symm.trans hget)
    change lastOf k (s.bus.latest.values ++ s.queue) = some e
    rw [lastOf_append, hval]
    cases hq : lastOf k s.queue with
    | none => rfl
    | some e' => rw [h.announced payload hpc k e e' hget hq]; rfl

theorem replaying_tidy {c : TelemetryEvent} {rest : List TelemetryEvent} (h : Tidy s)
    (hpc : s.pc = .replaying c rest) : Tidy ((s.recordEvent c).replay rest now) := by
  have hconn : s.connected := by simp [connected, hpc]
  have hpend : s.pending = c :: rest := by simp [pending, hpc]
  obtain ⟨hbus, hqueue, hev, hpc', -⟩ := recordEvent_same s c
  refine replay_tidy (recordEvent_sound h.sound) (by simpa only [connected, hpc'] using hconn)
    (fun e he => (h.pending e (hpend ▸ List.mem_cons_of_mem c he)).1) (fun k e hget hs he => ?_)
  rw [hbus] at hget
  rw [hev] at he
  rw [hqueue]
  have hset := h.settled (by simp [replayed, hpc]) k e hget hs he
  unfold Settled upcoming at hset
  rw [hpend] at hset
  exact recordEvent_settled h.sound (h.pending c (hpend ▸ List.mem_cons_self)) hget hset

theorem heartbeating_tidy {payload : Payload} (h : Tidy s) (hpc : s.pc = .heartbeating payload) :
    Tidy { s.record s.availabilityTopic payload with pc := .waiting } := by
  have hconn : s.connected := by simp [connected, hpc]
  refine ⟨h.sound.congr rfl rfl hconn.symm, fun e he => absurd he List.not_mem_nil,
    fun p hp => (by cases hp), fun _ k e hget hs he => ?_⟩
  obtain ⟨hk, hw, ht⟩ := h.sound.latest k e hget
  have hset := h.settled (by simp [replayed, hpc]) k e hget hs he
  have hpend : s.pending = [] := by simp [pending, hpc]
  unfold Settled upcoming at hset
  rw [hpend] at hset
  have hpay : (s.record s.availabilityTopic payload).lastPayload e = s.lastPayload e :=
    lastPayload_recordService hw (keepsLatest_isTelemetry ht) hs
  rw [← hpay] at hset
  exact hset

theorem publishing_tidy {c : TelemetryEvent} (h : Tidy s) (hpc : s.pc = .publishing c) :
    Tidy { s.recordEvent c with pc := .waiting } := by
  have hconn : s.connected := by simp [connected, hpc]
  have hpend : s.pending = [c] := by simp [pending, hpc]
  obtain ⟨hbus, hqueue, hev, hpc', hid⟩ := recordEvent_same s c
  refine ⟨(recordEvent_sound h.sound).congr rfl rfl (by simp only [connected, hpc', hpc]),
    fun e he => absurd he List.not_mem_nil, fun p hp => (by cases hp), fun _ k e hget hs he => ?_⟩
  change (s.recordEvent c).bus.latest.get? k = some e at hget
  change e ∉ (s.recordEvent c).evicted at he
  rw [hbus] at hget
  rw [hev] at he
  have hset := h.settled (by simp [replayed, hpc]) k e hget hs he
  unfold Settled upcoming at hset
  rw [hpend] at hset
  have hnew : lastOf k ([] ++ s.queue) = some e ∨ _ :=
    recordEvent_settled h.sound (h.pending c (hpend ▸ List.mem_cons_self)) hget hset
  rw [← hqueue] at hnew
  exact hnew

theorem acknowledge_tidy (h : Tidy s) (ha : s.acknowledge now = some t) : Tidy t := by
  unfold acknowledge at ha
  split at ha
  · rename_i payload hpc
    cases ha
    exact announcing_tidy h hpc
  · rename_i c rest hpc
    cases ha
    exact replaying_tidy h hpc
  · rename_i payload hpc
    cases ha
    exact heartbeating_tidy h hpc
  · rename_i c hpc
    cases ha
    exact publishing_tidy h hpc
  · rename_i c rest hpc
    cases ha
    have hconn : s.connected := by simp [connected, hpc]
    obtain ⟨-, -, -, hpc', -⟩ := recordEvent_same s c
    exact flush_tidy (recordEvent_sound h.sound) (by simpa only [connected, hpc'] using hconn)
  · rename_i payload hpc
    cases ha
    have hconn : s.connected = false := by simp [connected, hpc]
    exact Sound.tidy (h.sound.congr rfl rfl hconn.symm) rfl (fun p hp => (by cases hp)) rfl
  · cases ha
  · cases ha
  · cases ha

theorem get_spec {e : TelemetryEvent} {bus : EventBus} (h : Sound s) (hc : s.connected)
    (hget : s.bus.get s.queueId = some (e, bus)) :
    s.queue = e :: (s.withBus bus).queue ∧ Sound (s.withBus bus) ∧ bus.latest = s.bus.latest := by
  have hsub := h.subscribed
  rw [if_pos hc] at hsub
  unfold EventBus.get at hget
  split at hget
  · cases hget
  · rename_i e' q hq
    cases hget
    have hqueue : s.queue = e :: q := hq
    generalize hb : ({ s.bus with subscribers := _ } : EventBus) = bus
    have hsub' : bus.subscribers = [(s.queueId, q)] := by simp [← hb, hsub]
    have hrest : (s.withBus bus).queue = q := by simp [withBus, queue, EventBus.queue, hsub']
    have hconn : (s.withBus bus).connected := hc
    rw [hrest]
    refine ⟨hqueue, ⟨?_, fun k e' hk => h.latest k e' (by rwa [withBus, ← hb] at hk), fun e' he' => ?_⟩, by rw [← hb]⟩
    · rw [if_pos hconn, hrest]
      exact hsub'
    · exact h.queued e' (hqueue ▸ List.mem_cons_of_mem e (hrest ▸ he'))

theorem received_tidy {e : TelemetryEvent} (h : Sound s) (hpc : s.pc = .waiting) (hw : WellFormed e)
    (hset : ∀ k e', s.bus.latest.get? k = some e' → e'.type ≠ .serviceAvailability → e' ∉ s.evicted →
      lastOf k (e :: s.queue) = some e' ∨
        (lastOf k (e :: s.queue) = none ∧ s.lastPayload e' = some (mqttPayload e'))) :
    Tidy (s.received e now) := by
  have hconn : s.connected := by simp [connected, hpc]
  unfold received
  split
  · exact flush_tidy h hconn
  · split
    · rename_i htel
      refine ⟨h, by simp [pending, hpc], by simp [hpc], fun _ k e' hk hs he => ?_⟩
      have hne : e.key ≠ k := by
        intro hkey
        obtain ⟨hek, -, hkeep⟩ := h.latest k e' hk
        have hty : e.type = e'.type := congrArg (fun k => k.2.1) (hkey.trans hek.symm)
        rw [hty, keepsLatest_isTelemetry hkeep] at htel
        cases htel
      have hrest := hset k e' hk hs he
      rw [lastOf_cons, if_neg hne] at hrest
      unfold Settled upcoming
      simpa [pending, hpc] using hrest
    · rename_i htel
      have htel' : e.type.isTelemetry := by simpa using htel
      obtain ⟨topic, htopic, -⟩ := topicFor_eq (b := s.baseTopic) hw htel'
      rw [if_pos (by simp [htopic])]
      refine ⟨h.congr rfl rfl hconn.symm, fun e' he => ?_, fun p hp => (by cases hp), fun _ => hset⟩
      cases List.mem_singleton.mp he
      exact ⟨hw, htel'⟩

theorem take_tidy (h : Tidy s) (ht : s.take now = some t) : Tidy t := by
  unfold take at ht
  split at ht
  · rename_i hpc
    have hconn : s.connected := by simp [connected, hpc]
    obtain ⟨⟨e, bus⟩, hget, rfl⟩ := Option.map_eq_some_iff.mp ht
    obtain ⟨hqueue, hsound, hlatest⟩ := get_spec h.sound hconn hget
    refine received_tidy hsound hpc (h.sound.queued e (hqueue ▸ List.mem_cons_self)) fun k e' hk hs he => ?_
    have hset := h.settled (by simp [replayed, hpc]) k e' (hlatest ▸ hk) hs he
    unfold Settled upcoming at hset
    rwa [hqueue, show s.pending = [] by simp [pending, hpc]] at hset
  · cases ht

theorem timeout_tidy (h : Tidy s) (ht : s.timeout now = some t) : Tidy t := by
  unfold timeout at ht
  split at ht
  · rename_i hpc
    cases ht
    have hconn : s.connected := by simp [connected, hpc]
    refine ⟨h.sound.congr rfl rfl hconn.symm, fun e he => absurd he List.not_mem_nil, fun p hp => (by cases hp),
      fun _ k e hget hs he => ?_⟩
    have hset := h.settled (by simp [replayed, hpc]) k e hget hs he
    have hpend : s.pending = [] := by simp [pending, hpc]
    unfold Settled upcoming at hset
    rw [hpend] at hset
    exact hset
  · cases ht

theorem connect_tidy (h : Tidy s) (ht : s.connect now = some t) : Tidy t := by
  unfold connect at ht
  split at ht
  · rename_i hpc
    have hsub := h.sound.subscribed
    simp only [connected, hpc, Bool.false_eq_true, ↓reduceIte] at hsub
    cases ht
    generalize ht : ({ s.withBus s.bus.subscribe.1 with queueId := _, pc := _ } : MqttRun) = t
    have hqueue : t.queue = [] := by simp [← ht, queue, EventBus.queue, EventBus.subscribe, withBus, hsub]
    refine ⟨⟨?_, ?_, ?_⟩, ?_, ?_, ?_⟩
    · rw [hqueue]
      simp [← ht, connected, EventBus.subscribe, withBus, hsub]
    · intro k e hk
      exact h.sound.latest k e (by rwa [← ht] at hk)
    · simp [hqueue]
    · simp [← ht, pending]
    · simp [hqueue]
    · simp [← ht, replayed]
  · cases ht

theorem forget_tidy (d : DeviceId) (h : Tidy s) : Tidy (s.withBus (s.bus.forgetDevice d)) := by
  have hget : ∀ k e, (s.bus.forgetDevice d).latest.get? k = some e → s.bus.latest.get? k = some e := by
    intro k e he
    rw [EventBus.forgetDevice, Dict.get?_filterKeys] at he
    split at he
    · exact he
    · cases he
  exact ⟨⟨h.sound.subscribed, fun k e hk => h.sound.latest k e (hget k e hk), h.sound.queued⟩, h.pending,
    fun p hp k e e' hk => h.announced p hp k e e' (hget k e hk), fun hr k e hk => h.settled hr k e (hget k e hk)⟩

end Steps

theorem initial_tidy {s : MqttRun} (h : s.Initial) : Tidy s := by
  obtain ⟨_, _, _, _, _, _, _, rfl⟩ := h
  exact ⟨⟨rfl, fun k e he => (by cases he), fun e he => absurd he List.not_mem_nil⟩,
    fun e he => absurd he List.not_mem_nil, fun p hp => (by cases hp), fun hr => (by cases hr)⟩

def Publishes (_ : MqttRun) : MqttAction → Prop
  | .publish event => WellFormed event
  | _ => True

theorem step_tidy {s t : MqttRun} {a : MqttAction} (h : Tidy s) (hp : Publishes s a) (hs : s.step a = some t) :
    Tidy t := by
  cases a with
  | publish event =>
    cases hs
    exact publish_tidy h hp
  | forget d =>
    cases hs
    exact forget_tidy d h
  | connect now => exact connect_tidy h hs
  | acknowledge now => exact acknowledge_tidy h hs
  | take now => exact take_tidy h hs
  | timeout now => exact timeout_tidy h hs

theorem retained_converges {s : MqttRun} (h : Reaches Initial step Publishes s) (hw : s.pc = .waiting)
    (hq : s.queue = []) {k : EventKey} {e : TelemetryEvent} (hget : s.bus.latest.get? k = some e)
    (hs : e.type ≠ .serviceAvailability) (he : e ∉ s.evicted) : s.lastPayload e = some (mqttPayload e) := by
  have htidy : Tidy s := h.invariant (fun _ => initial_tidy) (fun _ _ _ ht hp hst => step_tidy ht hp hst)
  have hset := htidy.settled (by simp [replayed, hw]) k e hget hs he
  unfold Settled upcoming at hset
  rw [hq] at hset
  simpa [pending, hw] using hset

def smallRun : MqttRun := .create (.create 200 1 1 (Nat.succ_pos 199) Nat.one_pos) "pitblu" .physical

def sampleEvent (type : EventType) (probe : Option ℕ) : TelemetryEvent :=
  ⟨0, none, type, 0, 1, .physical, some "grill", probe, [("available", .bool true)]⟩

theorem sampleEvent_wellFormed {type : EventType} (h : type = .battery ∨ type = .deviceAvailability) :
    WellFormed (sampleEvent type none) := by
  rcases h with rfl | rfl <;> exact ⟨⟨"grill", rfl, by decide⟩, rfl⟩

theorem smallRun_initial : smallRun.Initial := ⟨_, _, _, _, _, _, _, rfl⟩

def Converged (s : MqttRun) : Prop :=
  s.pc = .waiting → s.queue = [] → ∀ k e, s.bus.latest.get? k = some e → e.type ≠ .serviceAvailability →
    s.lastPayload e = some (mqttPayload e)

def missing (k : EventKey) (s : MqttRun) : Bool :=
  s.pc = .waiting && s.queue.isEmpty &&
    (s.bus.latest.get? k).any (fun e => e.type ≠ .serviceAvailability && s.lastPayload e ≠ some (mqttPayload e))

theorem not_converged {k : EventKey} {s : MqttRun} (h : missing k s) : ¬Converged s := by
  intro hc
  simp only [missing, Bool.and_eq_true, decide_eq_true_eq, List.isEmpty_iff, Option.any_eq_true] at h
  obtain ⟨⟨hw, hq⟩, e, hget, hs, hne⟩ := h
  exact hne (hc hw hq k e hget hs)

theorem exists_of_run {as : List MqttAction} {p : MqttRun → Bool}
    (h : (Library.replay step smallRun as).any p = true) : ∃ s, Library.replay step smallRun as = some s ∧ p s :=
  Option.any_eq_true _ _ |>.mp h

/-- A queue of one event loses a battery event to the next one; and an event of a device that carries a
probe number shares the topic of one that does not. -/
theorem retained_diverges : (¬∀ s, Reaches Initial step Publishes s → Converged s) ∧
    ¬∀ s, Reachable Initial step s → s.evicted = [] → Converged s := by
  constructor
  · intro hall
    have hrun : (Library.replay step smallRun [.connect 0, .acknowledge 0, .publish (sampleEvent .battery none),
        .publish (sampleEvent .deviceAvailability none), .take 0, .acknowledge 0]).any
        (missing (some "grill", .battery, none)) := by decide +kernel
    obtain ⟨s, hs, hm⟩ := exists_of_run hrun
    refine not_converged hm (hall s (.of_replay_guarded (.init smallRun_initial) ?_ hs))
    simp only [List.forall_mem_cons]
    exact ⟨fun _ => trivial, fun _ => trivial, fun _ => sampleEvent_wellFormed (.inl rfl),
      fun _ => sampleEvent_wellFormed (.inr rfl), fun _ => trivial, fun _ => trivial, fun _ h =>
        absurd h List.not_mem_nil⟩
  · intro hall
    have hrun : (Library.replay step smallRun [.connect 0, .acknowledge 0, .publish (sampleEvent .battery none),
        .take 0, .acknowledge 0, .publish { sampleEvent .battery (some 1) with sequence := 2 }, .take 0,
        .acknowledge 0]).any (fun s => s.evicted = [] && missing (some "grill", .battery, none) s) := by decide +kernel
    obtain ⟨s, hs, hm⟩ := exists_of_run hrun
    obtain ⟨hev, hm⟩ := Bool.and_eq_true_iff.mp hm
    exact not_converged hm (hall s (.of_replay (.init smallRun_initial) hs) (by simpa using hev))

theorem retained_converges_small : ∃ s, Library.replay step smallRun [.publish (sampleEvent .battery none),
      .connect 0, .acknowledge 0, .acknowledge 0, .publish (sampleEvent .deviceAvailability none), .take 0,
      .acknowledge 0] = some s ∧
    ∃ e, s.bus.latest.get? (some "grill", .battery, none) = some e ∧ s.lastPayload e = some (mqttPayload e) := by
  have hrun : (Library.replay step smallRun [.publish (sampleEvent .battery none), .connect 0, .acknowledge 0,
      .acknowledge 0, .publish (sampleEvent .deviceAvailability none), .take 0, .acknowledge 0]).any
      (fun s => s.pc = .waiting && s.queue.isEmpty && s.evicted.isEmpty &&
        (s.bus.latest.get? (some "grill", .battery, none)).any (fun e => e.type ≠ .serviceAvailability)) := by
    decide +kernel
  obtain ⟨s, hs, hm⟩ := exists_of_run hrun
  simp only [Bool.and_eq_true, decide_eq_true_eq, List.isEmpty_iff, Option.any_eq_true] at hm
  obtain ⟨⟨⟨hw, hq⟩, hev⟩, e, hget, hty⟩ := hm
  refine ⟨s, hs, e, hget, retained_converges (.of_replay_guarded (.init smallRun_initial) ?_ hs) hw hq hget hty
    (by simp [hev])⟩
  simp only [List.forall_mem_cons]
  exact ⟨fun _ => sampleEvent_wellFormed (.inl rfl), fun _ => trivial, fun _ => trivial, fun _ => trivial,
    fun _ => sampleEvent_wellFormed (.inr rfl), fun _ => trivial, fun _ => trivial, fun _ h =>
      absurd h List.not_mem_nil⟩

end MqttRun

end PitbluCore
