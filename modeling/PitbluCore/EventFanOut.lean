import Mathlib.Data.List.Perm.Subperm
import Mathlib.Logic.Function.Basic
import PitbluCore.Library.Runs
import PitbluCore.Events

namespace PitbluCore

open Library

section Buffers

variable {α : Type} {size : ℕ} {q l : List α} {a b : α}

theorem suffix_concat (h : q <:+ l) (a : α) : q ++ [a] <:+ l ++ [a] := by
  obtain ⟨dropped, rfl⟩ := h
  exact ⟨dropped, (List.append_assoc dropped q [a]).symm⟩

theorem pushBounded_suffix (h : q <:+ l) : pushBounded size q a <:+ l ++ [a] := by
  unfold pushBounded
  split
  · exact suffix_concat h a
  · exact suffix_concat ((List.tail_suffix q).trans h) a

theorem pushBounded_length (hs : 1 ≤ size) (h : q.length ≤ size) : (pushBounded size q a).length ≤ size := by
  unfold pushBounded
  split
  · simp only [List.length_append, List.length_singleton]
    omega
  · simp only [List.length_append, List.length_tail, List.length_singleton]
    omega

theorem mem_of_mem_pushBounded (h : b ∈ pushBounded size q a) : b ∈ q ∨ b = a := by
  unfold pushBounded at h
  rcases List.mem_append.mp h with h | h
  · split at h
    · exact .inl h
    · exact .inl (List.mem_of_mem_tail h)
  · exact .inr (List.mem_singleton.mp h)

theorem mem_pushBounded_self : a ∈ pushBounded size q a := List.mem_append_right _ (List.mem_singleton_self a)

theorem pushBounded_of_lost (hb : b ∈ q) (hlost : b ∉ pushBounded size q a) :
    q = b :: q.tail ∧ size ≤ (pushBounded size q a).length := by
  unfold pushBounded at hlost ⊢
  split
  · rename_i hlt
    rw [if_pos hlt] at hlost
    exact absurd (List.mem_append_left _ hb) hlost
  · rename_i hlt
    rw [if_neg hlt] at hlost
    cases q with
    | nil => cases hb
    | cons c q =>
      rcases List.mem_cons.mp hb with rfl | hb
      · refine ⟨rfl, ?_⟩
        simp only [List.length_cons, List.tail_cons, List.length_append, List.length_nil] at hlt ⊢
        omega
      · exact absurd (List.mem_append_left _ hb) hlost

theorem pushBounded_take (hs : 1 ≤ size) (l : List α) :
    pushBounded size (l.take size).reverse a = ((a :: l).take size).reverse := by
  obtain ⟨n, rfl⟩ : ∃ n, size = n + 1 := ⟨size - 1, by omega⟩
  rw [List.take_succ_cons, List.reverse_cons]
  unfold pushBounded
  congr 1
  split
  · rename_i hlt
    rw [List.length_reverse, List.length_take] at hlt
    have hle : l.length ≤ n := by omega
    rw [List.take_of_length_le hle, List.take_of_length_le (hle.trans (Nat.le_succ n))]
  · rename_i hlt
    rw [List.length_reverse, List.length_take] at hlt
    rw [List.tail_reverse, List.dropLast_eq_take, List.take_take, List.length_take]
    congr 2
    omega

end Buffers

inductive BusAction
  | publish (event : TelemetryEvent)
  | subscribe
  | unsubscribe (id : ℕ)
  | get (id : ℕ)
  | forgetDevice (deviceId : DeviceId)

/-- The bus, with how many events had been published when each subscriber came and when each device was
last forgotten. -/
structure FanOut where
  bus : EventBus
  joined : ℕ → ℕ
  forgotten : DeviceId → ℕ

namespace FanOut

variable (o : FanOut)

def step : BusAction → Option FanOut
  | .publish event => some { o with bus := o.bus.publish event }
  | .subscribe => some { o with
      bus := o.bus.subscribe.1
      joined := Function.update o.joined o.bus.nextSubscriber o.bus.published.length }
  | .unsubscribe id => some { o with bus := o.bus.unsubscribe id }
  | .get id => (o.bus.get id).map (fun r => { o with bus := r.2 })
  | .forgetDevice deviceId => some { o with
      bus := o.bus.forgetDevice deviceId
      forgotten := Function.update o.forgotten deviceId o.bus.published.length }

def Opened (o : FanOut) : Prop :=
  ∃ historySize subscriberQueueSize sessionId h h',
    o = ⟨.create historySize subscriberQueueSize sessionId h h', fun _ => 0, fun _ => 0⟩

def since (id : ℕ) : List TelemetryEvent := o.bus.published.reverse.drop (o.joined id)

def remembered (deviceId : Option DeviceId) : List TelemetryEvent :=
  o.bus.published.take (o.bus.published.length - deviceId.elim 0 o.forgotten)

def after (e : TelemetryEvent) : List TelemetryEvent := o.bus.published.filter (fun x => e.eventId < x.eventId)

def latestOf (k : EventKey) : Option TelemetryEvent :=
  (o.remembered k.1).find? (fun e => e.type.keepsLatest && e.key = k)

structure Sound (o : FanOut) : Prop where
  numbered : o.bus.published.Pairwise (fun e e' => e'.eventId < e.eventId)
  bound : ∀ e ∈ o.bus.published, e.eventId < o.bus.published.length
  ids : (o.bus.subscribers.map Prod.fst).Nodup
  known : ∀ q ∈ o.bus.subscribers, q.1 < o.bus.nextSubscriber ∧ o.joined q.1 ≤ o.bus.published.length
  queues : ∀ q ∈ o.bus.subscribers, q.2 <:+ o.since q.1 ∧ q.2.length ≤ o.bus.subscriberQueueSize
  history : o.bus.history = (o.bus.published.take o.bus.historySize).reverse
  forgotten : ∀ d, o.forgotten d ≤ o.bus.published.length
  latest : ∀ k, o.bus.latest.get? k = o.latestOf k

section Steps

variable {o o' : FanOut}

theorem opened_sound (h : o.Opened) : o.Sound := by
  obtain ⟨historySize, subscriberQueueSize, sessionId, hs, hs', rfl⟩ := h
  refine ⟨.nil, fun e he => (by cases he), List.nodup_nil, fun q hq => (by cases hq), fun q hq => (by cases hq), ?_,
    fun d => le_rfl, fun k => ?_⟩
  · simp [EventBus.create]
  · simp [EventBus.create, latestOf, remembered]

theorem since_publish {id : ℕ} (hj : o.joined id ≤ o.bus.published.length) (event : TelemetryEvent) :
    ∃ e, (o.bus.publish event).published = e :: o.bus.published ∧ e.eventId = o.bus.published.length ∧
      ({ o with bus := o.bus.publish event } : FanOut).since id = o.since id ++ [e] := by
  refine ⟨_, rfl, rfl, ?_⟩
  simp only [since, EventBus.publish, List.reverse_cons]
  rw [List.drop_append_of_le_length (by rw [List.length_reverse]; exact hj)]

theorem latestOf_publish (hf : ∀ d, o.forgotten d ≤ o.bus.published.length) (event : TelemetryEvent) (k : EventKey) :
    ({ o with bus := o.bus.publish event } : FanOut).latestOf k =
      if event.type.keepsLatest = true ∧ event.key = k then
        some { event with sessionId := some o.bus.sessionId, eventId := o.bus.published.length }
      else o.latestOf k := by
  have hle : k.1.elim 0 o.forgotten ≤ o.bus.published.length := by
    cases k.1 with
    | none => exact Nat.zero_le _
    | some d => exact hf d
  have htake : o.bus.published.length + 1 - k.1.elim 0 o.forgotten =
      (o.bus.published.length - k.1.elim 0 o.forgotten) + 1 := by omega
  simp only [latestOf, remembered, EventBus.publish, List.length_cons, htake, List.take_succ_cons, List.find?_cons]
  have hkey :
      ({ event with sessionId := some o.bus.sessionId, eventId := o.bus.published.length } : TelemetryEvent).key =
    event.key := rfl
  rw [hkey]
  by_cases hk : event.type.keepsLatest = true ∧ event.key = k
  · simp [hk]
  · rw [if_neg hk]
    have hfalse : (event.type.keepsLatest && decide (event.key = k)) = false := by
      simpa using hk
    rw [hfalse]

theorem Sound.publish (h : o.Sound) (event : TelemetryEvent) :
    ({ o with bus := o.bus.publish event } : FanOut).Sound := by
  constructor
  · refine List.pairwise_cons.mpr ⟨fun e he => ?_, h.numbered⟩
    exact h.bound e he
  · intro e he
    rcases List.mem_cons.mp he with rfl | he
    · exact Nat.lt_succ_self _
    · exact (h.bound e he).trans (Nat.lt_succ_self _)
  · simpa only [EventBus.publish, List.map_map, Function.comp_def] using h.ids
  · intro q hq
    obtain ⟨p, hp, rfl⟩ := List.mem_map.mp hq
    exact ⟨(h.known p hp).1, (h.known p hp).2.trans (Nat.le_succ _)⟩
  · intro q hq
    obtain ⟨p, hp, rfl⟩ := List.mem_map.mp hq
    obtain ⟨hsuffix, hlength⟩ := h.queues p hp
    obtain ⟨e, he, -, hsince⟩ := since_publish (h.known p hp).2 event
    obtain rfl := (List.cons.inj he).1
    exact ⟨hsince ▸ pushBounded_suffix hsuffix, pushBounded_length o.bus.subscriberQueueSize_pos hlength⟩
  · simp only [EventBus.publish, h.history]
    exact pushBounded_take o.bus.historySize_pos _
  · exact fun d => (h.forgotten d).trans (Nat.le_succ _)
  · intro k
    rw [latestOf_publish h.forgotten event k, ← h.latest k]
    simp only [EventBus.publish]
    by_cases hk : event.type.keepsLatest = true
    · simp only [hk, ↓reduceIte, Dict.get?_set, true_and, TelemetryEvent.key]
      by_cases he : k = (event.deviceId, event.type, event.probe)
      · rw [if_pos he, if_pos he.symm]
      · rw [if_neg he, if_neg (fun hx => he hx.symm)]
    · rw [if_neg hk, if_neg (fun hx => hk hx.1)]

theorem Sound.subscribe (h : o.Sound) : ({ o with
    bus := o.bus.subscribe.1
    joined := Function.update o.joined o.bus.nextSubscriber o.bus.published.length } : FanOut).Sound := by
  refine ⟨h.numbered, h.bound, ?_, fun q hq => ?_, fun q hq => ?_, h.history, h.forgotten, h.latest⟩
  · simp only [EventBus.subscribe, List.map_append, List.map_cons, List.map_nil]
    refine h.ids.append (List.nodup_singleton _) (List.disjoint_singleton.mpr (fun hm => ?_))
    obtain ⟨q, hq, he⟩ := List.mem_map.mp hm
    exact (h.known q hq).1.ne he
  · rcases List.mem_append.mp hq with hq | hq
    · obtain ⟨hlt, hle⟩ := h.known q hq
      refine ⟨hlt.trans (Nat.lt_succ_self _), ?_⟩
      dsimp only
      rw [Function.update_of_ne hlt.ne]
      exact hle
    · obtain rfl := List.mem_singleton.mp hq
      refine ⟨Nat.lt_succ_self _, ?_⟩
      dsimp only
      rw [Function.update_self]
      exact le_rfl
  · rcases List.mem_append.mp hq with hq | hq
    · have hsince := h.queues q hq
      simp only [since, Function.update_of_ne (h.known q hq).1.ne]
      exact hsince
    · obtain rfl := List.mem_singleton.mp hq
      exact ⟨List.nil_suffix, Nat.zero_le _⟩

theorem Sound.of_queues (h : o.Sound) {subscribers : List (ℕ × List TelemetryEvent)}
    (hids : (subscribers.map Prod.fst).Sublist (o.bus.subscribers.map Prod.fst))
    (hq : ∀ q ∈ subscribers, ∃ p ∈ o.bus.subscribers, q.1 = p.1 ∧ q.2 <:+ p.2) :
    ({ o with bus := { o.bus with subscribers := subscribers } } : FanOut).Sound := by
  refine ⟨h.numbered, h.bound, h.ids.sublist hids, fun q hm => ?_, fun q hm => ?_, h.history, h.forgotten, h.latest⟩
  · obtain ⟨p, hp, he, -⟩ := hq q hm
    rw [he]
    exact h.known p hp
  · obtain ⟨p, hp, he, hs⟩ := hq q hm
    have hold := h.queues p hp
    simp only [since, he]
    exact ⟨hs.trans hold.1, hs.length_le.trans hold.2⟩

theorem Sound.forgetDevice (h : o.Sound) (d : DeviceId) : ({ o with
    bus := o.bus.forgetDevice d
    forgotten := Function.update o.forgotten d o.bus.published.length } : FanOut).Sound := by
  refine ⟨h.numbered, h.bound, h.ids, h.known, h.queues, h.history, fun d' => ?_, fun k => ?_⟩
  · by_cases hd : d' = d
    · simp [hd, EventBus.forgetDevice]
    · dsimp only
      rw [Function.update_of_ne hd]
      exact h.forgotten d'
  · simp only [EventBus.forgetDevice, Dict.get?_filterKeys, latestOf, remembered]
    by_cases hk : k.1 = some d
    · simp [hk]
    · have hsame : k.1.elim 0 (Function.update o.forgotten d o.bus.published.length) = k.1.elim 0 o.forgotten := by
        cases hk' : k.1 with
        | none => rfl
        | some d' => exact Function.update_of_ne (fun he => hk (by rw [hk', he])) _ _
      rw [hsame, if_pos (by simpa using hk)]
      exact h.latest k

theorem get_cases {id : ℕ} {e : TelemetryEvent} {b : EventBus} (h : o.bus.get id = some (e, b)) :
    ∃ q, o.bus.queue id = e :: q ∧
      b = { o.bus with subscribers := o.bus.subscribers.map (fun s => if s.1 = id then (id, q) else s) } := by
  unfold EventBus.get at h
  split at h
  · cases h
  · rename_i e' q hq
    cases h
    exact ⟨q, hq, rfl⟩

theorem Sound.queue_of_mem (h : o.Sound) {q : ℕ × List TelemetryEvent} (hq : q ∈ o.bus.subscribers) :
    o.bus.queue q.1 = q.2 := by
  rw [EventBus.queue, (lookup_eq_some_iff h.ids).mpr hq]
  rfl

theorem Sound.step (h : o.Sound) {a : BusAction} (hs : o.step a = some o') : o'.Sound := by
  cases a with
  | publish event =>
    cases hs
    exact h.publish event
  | subscribe =>
    cases hs
    exact h.subscribe
  | unsubscribe id =>
    cases hs
    exact h.of_queues (List.filter_sublist.map _) (fun q hq => ⟨q, List.mem_of_mem_filter hq, rfl, List.suffix_rfl⟩)
  | get id =>
    obtain ⟨⟨e, b⟩, hb, rfl⟩ := Option.map_eq_some_iff.mp hs
    obtain ⟨q, hq, rfl⟩ := get_cases hb
    apply h.of_queues
    · have hids : (o.bus.subscribers.map (fun s => if s.1 = id then (id, q) else s)).map Prod.fst =
          o.bus.subscribers.map Prod.fst := by
        rw [List.map_map]
        apply List.map_congr_left
        intro s _
        by_cases hid : s.1 = id <;> simp [hid]
      exact hids ▸ List.Sublist.refl _
    · intro s hm
      obtain ⟨p, hp, rfl⟩ := List.mem_map.mp hm
      refine ⟨p, hp, ?_⟩
      split
      · rename_i hid
        subst hid
        rw [h.queue_of_mem hp] at hq
        exact ⟨rfl, by rw [hq]; exact List.suffix_cons e q⟩
      · exact ⟨rfl, List.suffix_rfl⟩
  | forgetDevice d =>
    cases hs
    exact h.forgetDevice d

theorem reachable_sound (h : Reachable Opened step o) : o.Sound :=
  Reaches.invariant (fun _ => opened_sound) (fun _ _ _ hs _ ht => hs.step ht) h

end Steps

section Results

variable {o o' : FanOut} {i j : ℕ} {e : TelemetryEvent}

theorem lookup_map_snd {f : ℕ → List TelemetryEvent → List TelemetryEvent} (l : List (ℕ × List TelemetryEvent)) :
    (l.map (fun q => (q.1, f q.1 q.2))).lookup j = (l.lookup j).map (f j) := by
  induction l with
  | nil => rfl
  | cons q l ih =>
    rw [List.map_cons, lookup_cons_ite, lookup_cons_ite, ih]
    split
    · rename_i he
      rw [he]
      rfl
    · rfl

theorem queue_publish (h : o.Sound) (hj : ∃ q, (j, q) ∈ o.bus.subscribers) (event : TelemetryEvent) :
    ∃ e, (o.bus.publish event).published = e :: o.bus.published ∧ e.eventId = o.bus.published.length ∧
      (o.bus.publish event).queue j = pushBounded o.bus.subscriberQueueSize (o.bus.queue j) e := by
  obtain ⟨q, hq⟩ := hj
  refine ⟨_, rfl, rfl, ?_⟩
  have hold : o.bus.queue j = q := h.queue_of_mem hq
  have hnew : (j, pushBounded o.bus.subscriberQueueSize q
      { event with sessionId := some o.bus.sessionId, eventId := o.bus.published.length }) ∈
      (o.bus.publish event).subscribers := List.mem_map.mpr ⟨_, hq, rfl⟩
  rw [hold]
  exact (h.publish event).queue_of_mem hnew

theorem queue_of_not_subscribed (hj : ∀ q, (j, q) ∉ o.bus.subscribers) : o.bus.queue j = [] := by
  rw [EventBus.queue]
  cases hl : o.bus.subscribers.lookup j with
  | none => rfl
  | some q =>
    obtain ⟨l₁, l₂, hmem, -⟩ := List.lookup_eq_some_iff.mp hl
    exact absurd (hmem ▸ List.mem_append_right _ List.mem_cons_self) (hj q)

theorem queue_get {b : EventBus} (h : o.bus.get i = some (e, b)) :
    o.bus.queue i = e :: b.queue i ∧ ∀ j, j ≠ i → b.queue j = o.bus.queue j := by
  obtain ⟨q, hq, rfl⟩ := get_cases h
  have hmap : o.bus.subscribers.map (fun s => if s.1 = i then (i, q) else s) =
      o.bus.subscribers.map (fun s => (s.1, if s.1 = i then q else s.2)) := by
    apply List.map_congr_left
    intro s _
    split
    · rename_i hid
      rw [hid]
    · rfl
  have hlookup : ∀ j, (o.bus.subscribers.map (fun s => if s.1 = i then (i, q) else s)).lookup j =
      (o.bus.subscribers.lookup j).map (fun old => if j = i then q else old) := by
    intro j
    rw [hmap]
    exact lookup_map_snd (f := fun k old => if k = i then q else old) _
  constructor
  · rw [hq]
    congr 1
    simp only [EventBus.queue, hlookup]
    cases hl : o.bus.subscribers.lookup i with
    | some old => simp
    | none =>
      rw [EventBus.queue, hl] at hq
      cases hq
  · intro j hne
    simp only [EventBus.queue, hlookup]
    simp [hne]

theorem queue_step {a : BusAction} (hs : o.step a = some o') (hp : ∀ event, a ≠ .publish event)
    (hg : a ≠ .get j) (hu : a ≠ .unsubscribe j) : o'.bus.queue j = o.bus.queue j := by
  cases a with
  | publish event => exact absurd rfl (hp event)
  | subscribe =>
    cases hs
    simp only [EventBus.queue, EventBus.subscribe, List.lookup_append]
    cases hl : o.bus.subscribers.lookup j with
    | some q => rfl
    | none =>
      rw [Option.none_or, lookup_cons_ite]
      split <;> rfl
  | unsubscribe id =>
    cases hs
    have hne : j ≠ id := fun he => hu (by rw [he])
    have hfilter := filter_lookup (fun k => decide (k ≠ id)) j o.bus.subscribers
    simp only [EventBus.queue, EventBus.unsubscribe, hfilter]
    simp [hne]
  | get id =>
    obtain ⟨⟨e, b⟩, hb, rfl⟩ := Option.map_eq_some_iff.mp hs
    exact (queue_get hb).2 j (fun he => hg (by rw [he]))
  | forgetDevice d =>
    cases hs
    rfl

structure Fair (o : FanOut) : Prop where
  queues : ∀ q ∈ o.bus.subscribers, o.bus.queue q.1 = q.2 ∧ q.2 <:+ o.since q.1 ∧ q.2.Nodup ∧
    q.2.length ≤ o.bus.subscriberQueueSize
  arrives : ∀ event o', o.step (.publish event) = some o' → ∀ q ∈ o'.bus.subscribers,
    ∃ e ∈ q.2, o'.bus.published = e :: o.bus.published
  lost : ∀ a o' i e, o.step a = some o' → e ∈ o.bus.queue i → e ∉ o'.bus.queue i →
    a = .unsubscribe i ∨ a = .get i ∧ (o.bus.get i).map Prod.fst = some e ∨
      (∃ event, a = .publish event) ∧ o.bus.subscriberQueueSize ≤ (o'.after e).length
  isolated : ∀ a o' j, o.step a = some o' → a ≠ .get j → a ≠ .unsubscribe j →
    o'.bus.queue j = o.bus.queue j ∨ ∃ e, o'.bus.published = e :: o.bus.published ∧
      o'.bus.queue j = pushBounded o.bus.subscriberQueueSize (o.bus.queue j) e
  recent : o.bus.recent = (o.bus.published.take o.bus.historySize).reverse
  retained : ∀ e, e ∈ o.bus.retainedState ↔ o.latestOf e.key = some e

theorem Sound.ascending (h : o.Sound) (i : ℕ) : (o.since i).Pairwise (fun e e' => e.eventId < e'.eventId) :=
  (List.pairwise_reverse.mpr h.numbered).sublist (List.drop_sublist _ _)

theorem nodup_of_ascending {l : List TelemetryEvent} (h : l.Pairwise (fun e e' => e.eventId < e'.eventId)) :
    l.Nodup := by
  refine h.imp (fun hlt he => ?_)
  rw [he] at hlt
  exact lt_irrefl _ hlt

theorem mem_published_of_since (he : e ∈ o.since i) : e ∈ o.bus.published :=
  List.mem_reverse.mp (List.mem_of_mem_drop he)

theorem subscribed_or_empty (o : FanOut) (i : ℕ) : (∃ q, (i, q) ∈ o.bus.subscribers) ∨ o.bus.queue i = [] := by
  by_cases hq : ∃ q, (i, q) ∈ o.bus.subscribers
  · exact .inl hq
  · exact .inr (queue_of_not_subscribed (fun q hm => hq ⟨q, hm⟩))

theorem Sound.queue_suffix (h : o.Sound) (i : ℕ) : o.bus.queue i <:+ o.since i := by
  rcases subscribed_or_empty o i with ⟨q, hq⟩ | hempty
  · rw [h.queue_of_mem hq]
    exact (h.queues (i, q) hq).1
  · rw [hempty]
    exact List.nil_suffix

theorem Sound.queue_ascending (h : o.Sound) (i : ℕ) :
    (o.bus.queue i).Pairwise (fun e e' => e.eventId < e'.eventId) := (h.ascending i).sublist (h.queue_suffix i).sublist

theorem Sound.mem_published (h : o.Sound) (he : e ∈ o.bus.queue i) : e ∈ o.bus.published :=
  mem_published_of_since ((h.queue_suffix i).subset he)

theorem Sound.lost (h : o.Sound) {a : BusAction} (hs : o.step a = some o') (he : e ∈ o.bus.queue i)
    (hlost : e ∉ o'.bus.queue i) : a = .unsubscribe i ∨ a = .get i ∧ (o.bus.get i).map Prod.fst = some e ∨
      (∃ event, a = .publish event) ∧ o.bus.subscriberQueueSize ≤ (o'.after e).length := by
  by_cases hp : ∃ event, a = .publish event
  · obtain ⟨event, rfl⟩ := hp
    refine .inr (.inr ⟨⟨event, rfl⟩, ?_⟩)
    cases hs
    have hj : ∃ q, (i, q) ∈ o.bus.subscribers := by
      refine (subscribed_or_empty o i).resolve_right (fun hempty => ?_)
      rw [hempty] at he
      cases he
    obtain ⟨x, hx, hid, hqueue⟩ := queue_publish h hj event
    rw [hqueue] at hlost
    obtain ⟨hfirst, hsize⟩ := pushBounded_of_lost he hlost
    have hasc := h.queue_ascending i
    rw [hfirst] at hasc
    -- all that the queue holds then is later
    have hlater : pushBounded o.bus.subscriberQueueSize (o.bus.queue i) x ⊆
        ({ o with bus := o.bus.publish event } : FanOut).after e := by
      intro y hy
      simp only [after, hx]
      rcases mem_of_mem_pushBounded hy with hold | rfl
      · have hmem := h.mem_published hold
        rw [hfirst] at hold
        rcases List.mem_cons.mp hold with rfl | hold
        · exact absurd hy hlost
        · have hlt := (List.pairwise_cons.mp hasc).1 y hold
          exact List.mem_filter.mpr ⟨List.mem_cons_of_mem _ hmem, by simpa using hlt⟩
      · have hlt := h.bound e (h.mem_published he)
        rw [← hid] at hlt
        exact List.mem_filter.mpr ⟨List.mem_cons_self, by simpa using hlt⟩
    have hnodup := nodup_of_ascending ((h.publish event).queue_ascending i)
    rw [hqueue] at hnodup
    exact hsize.trans (List.subperm_of_subset hnodup hlater).length_le
  · by_cases hg : a = .get i
    · subst hg
      refine .inr (.inl ⟨rfl, ?_⟩)
      obtain ⟨⟨x, b⟩, hb, rfl⟩ := Option.map_eq_some_iff.mp hs
      have hqueue := (queue_get hb).1
      rw [hqueue] at he
      rw [hb]
      rcases List.mem_cons.mp he with rfl | he
      · rfl
      · exact absurd he hlost
    · by_cases hu : a = .unsubscribe i
      · exact .inl hu
      · rw [queue_step hs (fun event hx => hp ⟨event, hx⟩) hg hu] at hlost
        exact absurd he hlost

theorem Sound.isolated (h : o.Sound) {a : BusAction} (hs : o.step a = some o') (hg : a ≠ .get j)
    (hu : a ≠ .unsubscribe j) :
    o'.bus.queue j = o.bus.queue j ∨ ∃ e, o'.bus.published = e :: o.bus.published ∧
      e.eventId = o.bus.published.length ∧
      o'.bus.queue j = pushBounded o.bus.subscriberQueueSize (o.bus.queue j) e := by
  by_cases hp : ∃ event, a = .publish event
  · obtain ⟨event, rfl⟩ := hp
    cases hs
    rcases subscribed_or_empty o j with hq | hempty
    · exact .inr (queue_publish h hq event)
    · rcases subscribed_or_empty { o with bus := o.bus.publish event } j with ⟨q, hq⟩ | hempty'
      · obtain ⟨p, hp, hpq⟩ := List.mem_map.mp hq
        cases hpq
        exact .inr (queue_publish h ⟨p.2, hp⟩ event)
      · exact .inl (hempty'.trans hempty.symm)
  · exact .inl (queue_step hs (fun event hx => hp ⟨event, hx⟩) hg hu)

theorem bounded_fan_out (h : Reachable Opened step o) : o.Fair := by
  have hs : o.Sound := reachable_sound h
  refine ⟨fun q hq => ?_, fun event o' hstep q hq => ?_, fun a o' i e hstep => hs.lost hstep,
    fun a o' j hstep hg hu => ?_, hs.history, fun e => ?_⟩
  · obtain ⟨hsuffix, hlength⟩ := hs.queues q hq
    exact ⟨hs.queue_of_mem hq, hsuffix, nodup_of_ascending ((hs.ascending q.1).sublist hsuffix.sublist), hlength⟩
  · cases hstep
    obtain ⟨p, hp, rfl⟩ := List.mem_map.mp hq
    exact ⟨_, mem_pushBounded_self, rfl⟩
  · exact (hs.isolated hstep hg hu).imp_right (fun ⟨e, he, _, hq⟩ => ⟨e, he, hq⟩)
  · rw [EventBus.retainedState, Dict.mem_values_iff]
    constructor
    · rintro ⟨k, hk⟩
      have hfind := (hs.latest k).symm.trans hk
      have hkey : e.key = k := by
        have hx := List.find?_some hfind
        simp only [Bool.and_eq_true, decide_eq_true_eq] at hx
        exact hx.2
      rw [hkey]
      exact hfind
    · intro hfind
      exact ⟨e.key, (hs.latest e.key).trans hfind⟩

def smallBus : FanOut := ⟨.create 2 1 0 (by decide) (by decide), fun _ => 0, fun _ => 0⟩

def overflowing : List BusAction :=
  [.subscribe, .publish ⟨0, none, .deviceConnection, 0, 1, .simulated, some "a", none, []⟩,
    .publish ⟨0, none, .deviceConnection, 1, 2, .simulated, some "a", none, []⟩]

theorem bounded_fan_out_overflow : ∃ o, replay step smallBus overflowing = some o ∧
    (o.bus.queue 0).map TelemetryEvent.sequence = [2] ∧ o.Fair := by
  obtain ⟨o, ho⟩ : ∃ o, replay step smallBus overflowing = some o := ⟨_, rfl⟩
  refine ⟨o, ho, ?_, bounded_fan_out (.of_replay (.init ⟨2, 1, 0, by decide, by decide, rfl⟩) ho)⟩
  cases ho
  decide

end Results

end FanOut

end PitbluCore
