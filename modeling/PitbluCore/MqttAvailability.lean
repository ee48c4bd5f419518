import PitbluCore.MqttPublisher

namespace PitbluCore

open Library

def available (payload : Payload) : Bool := payload.get? "available" = some (.bool true)

namespace MqttRun

theorem availabilityTopic_congr {s t : MqttRun} (h : t.baseTopic = s.baseTopic) :
    t.availabilityTopic = s.availabilityTopic := by rw [availabilityTopic, h, availabilityTopic]

theorem servicePayload_available (s : MqttRun) (b : Bool) (n : ℕ) (now : Time) :
    available (s.servicePayload b n now) = b := by
  have hget : (s.servicePayload b n now).get? "available" = some (.bool b) := rfl
  cases b <;> simp [available, hget]

structure Goes (s t : MqttRun) : Prop where
  base : t.baseTopic = s.baseTopic
  closing : ∀ payload, t.pc = .closing payload → available payload = false

section Goes

variable {s t : MqttRun} {now : Time}

theorem Goes.of_base {u : MqttRun} (h : Goes u t) (hb : u.baseTopic = s.baseTopic) : Goes s t :=
  ⟨h.base.trans hb, h.closing⟩

theorem recordEvent_base (s : MqttRun) (e : TelemetryEvent) : (s.recordEvent e).baseTopic = s.baseTopic := by
  unfold recordEvent
  split <;> rfl

theorem goes_finish (s : MqttRun) (now : Time) : Goes s (s.finish now) := by
  refine ⟨rfl, fun payload h => ?_⟩
  cases h
  exact servicePayload_available s false 2 now

theorem goes_replay (s : MqttRun) (events : List TelemetryEvent) (now : Time) : Goes s (s.replay events now) := by
  unfold replay
  split
  · exact ⟨rfl, fun _ h => (by cases h)⟩
  · split
    · exact ⟨rfl, fun _ h => (by cases h)⟩
    · exact goes_finish s now

theorem goes_flush (s : MqttRun) (events : List TelemetryEvent) (now : Time) : Goes s (s.flush events now) := by
  unfold flush
  split
  · exact goes_finish s now
  · split
    · exact ⟨rfl, fun _ h => (by cases h)⟩
    · exact goes_finish s now

theorem goes_acknowledge (h : s.acknowledge now = some t) : Goes s t := by
  unfold acknowledge at h
  split at h <;> cases h
  · exact (goes_replay _ _ now).of_base rfl
  · exact (goes_replay _ _ now).of_base (recordEvent_base s _)
  · exact ⟨rfl, fun _ h => (by cases h)⟩
  · exact ⟨recordEvent_base s _, fun _ h => (by cases h)⟩
  · exact (goes_flush _ _ now).of_base (recordEvent_base s _)
  · exact ⟨rfl, fun _ h => (by cases h)⟩

theorem goes_received (hpc : s.pc = .waiting) (e : TelemetryEvent) (now : Time) : Goes s (s.received e now) := by
  unfold received
  split
  · exact goes_flush s _ now
  · split
    · refine ⟨rfl, fun payload hc => ?_⟩
      rw [hpc] at hc
      cases hc
    · split
      · exact ⟨rfl, fun _ h => (by cases h)⟩
      · exact goes_finish s now

theorem goes_take (h : s.take now = some t) : Goes s t := by
  unfold take at h
  split at h
  · rename_i hpc
    obtain ⟨⟨e, bus⟩, -, rfl⟩ := Option.map_eq_some_iff.mp h
    exact (goes_received (s := s.withBus bus) hpc e now).of_base rfl
  · cases h

theorem goes_timeout (h : s.timeout now = some t) : Goes s t := by
  unfold timeout at h
  split at h <;> cases h
  exact ⟨rfl, fun _ h => (by cases h)⟩

theorem goes_connect (h : s.connect now = some t) : Goes s t := by
  unfold connect at h
  split at h <;> cases h
  exact ⟨rfl, fun _ h => (by cases h)⟩

theorem inFlight_publish {packet : Packet} (h : s.inFlight = some packet) :
    ∃ topic payload retain, packet = .publish topic payload retain := by
  unfold inFlight at h
  split at h
  case h_1 | h_2 | h_3 => exact ⟨_, _, _, (Option.some.inj h).symm⟩
  case h_4 | h_5 | h_6 =>
    obtain ⟨topic, -, rfl⟩ := Option.map_eq_some_iff.mp h
    exact ⟨_, _, _, rfl⟩
  case h_7 | h_8 | h_9 => cases h

end Goes

end MqttRun

def Packet.announced (topic : String) (b : Bool) : Packet → Bool
  | .publish t payload retain => if retain && t = topic then available payload else b
  | .connect | .disconnect => b

def Discharged (topic : String) : Bool → List Packet → Prop
  | _, [] => True
  | b, .disconnect :: wire => b = false ∧ Discharged topic b wire
  | b, packet :: wire => Discharged topic (packet.announced topic b) wire

section Discharged

variable {topic t : String} {b : Bool} {wire : List Packet} {payload : Payload} {retain : Bool}

theorem discharged_append_publish :
    Discharged topic b (wire ++ [.publish t payload retain]) ↔ Discharged topic b wire := by
  induction wire generalizing b with
  | nil => simp [Discharged]
  | cons packet wire ih => cases packet <;> simp [Discharged, ih]

theorem discharged_append_disconnect : Discharged topic b (wire ++ [.disconnect]) ↔
    Discharged topic b wire ∧ wire.foldl (Packet.announced topic) b = false := by
  induction wire generalizing b with
  | nil => simp [Discharged]
  | cons packet wire ih => cases packet <;> simp [Discharged, ih, Packet.announced, and_assoc]

end Discharged

namespace BrokerLink

structure Sound (topic : String) (b : Bool) (l : BrokerLink) : Prop where
  connects : l.wire.tail.any isConnect = false
  silent : l.accepted = false → b = false
  will : available l.will = false
  discharged : Discharged topic b l.wire

variable {topic : String} {b : Bool} {l : BrokerLink}

theorem accepted_write (l : BrokerLink) {packet : Packet} (hp : isConnect packet = false) :
    (l.write packet).accepted = l.accepted := by
  unfold write
  split
  · rfl
  · simp [accepted, hp]

theorem tail_append_any {wire : List Packet} {packet : Packet} (h : wire.tail.any isConnect = false)
    (hp : isConnect packet = false) : (wire ++ [packet]).tail.any isConnect = false := by
  cases wire with
  | nil => rfl
  | cons head wire => simpa [hp] using h

theorem Sound.publish (h : l.Sound topic b) (t : String) (payload : Payload) (retain : Bool) :
    (l.write (.publish t payload retain)).Sound topic b := by
  have hacc : (l.write (.publish t payload retain)).accepted = l.accepted := accepted_write l rfl
  unfold write at hacc ⊢
  split
  · exact h
  · rename_i hlost
    rw [if_neg hlost] at hacc
    exact ⟨tail_append_any h.connects rfl, fun ha => h.silent (hacc.symm.trans ha), h.will,
      discharged_append_publish.mpr h.discharged⟩

theorem Sound.disconnect (h : l.Sound topic b)
    (hf : l.lost = false → l.wire.foldl (Packet.announced topic) b = false) : (l.write .disconnect).Sound topic b := by
  have hacc : (l.write .disconnect).accepted = l.accepted := accepted_write l rfl
  unfold write at hacc ⊢
  split
  · exact h
  · rename_i hlost
    rw [if_neg hlost] at hacc
    exact ⟨tail_append_any h.connects rfl, fun ha => h.silent (hacc.symm.trans ha), h.will,
      discharged_append_disconnect.mpr ⟨h.discharged, hf (by simpa using hlost)⟩⟩

theorem Sound.next {packet : Packet} {rest : List Packet} (h : l.Sound topic b) (hw : l.wire = packet :: rest)
    (hp : packet ≠ .disconnect) :
    ({ l with wire := rest } : BrokerLink).Sound topic (packet.announced topic b) ∧
      ({ l with wire := rest } : BrokerLink).accepted = true := by
  have hconn := h.connects
  have hdis := h.discharged
  rw [hw] at hconn hdis
  have hrest : rest.any isConnect = false := hconn
  have hacc : ({ l with wire := rest } : BrokerLink).accepted = true := by simp [accepted, hrest]
  refine ⟨⟨?_, fun ha => absurd (hacc.symm.trans ha) Bool.noConfusion, h.will, ?_⟩, hacc⟩
  · cases rest with
    | nil => rfl
    | cons _ rest => exact (Bool.or_eq_false_iff.mp hrest).2
  · cases packet with
    | disconnect => exact absurd rfl hp
    | connect | publish => exact hdis

end BrokerLink

namespace MqttPublisher

variable {p q : MqttPublisher}

def retained (p : MqttPublisher) (topic : String) : Option Delivery :=
  p.received.find? (fun d => d.retain && d.topic = topic)

def said (p : MqttPublisher) (n : ℕ) : Bool :=
  (p.received.find? (fun d => d.connection = n && (d.retain && d.topic = p.run.availabilityTopic))).any
    (fun d => available d.payload)

def final (p : MqttPublisher) : Bool :=
  match p.phase with
  | .closing _ | .leaving _ => true
  | _ => false

inductive Effect (p q : MqttPublisher) : Prop
  | still (hl : q.links = p.links) (hr : q.received = p.received) (hc : q.connection = p.connection)
      (hf : q.final = true → p.final = true)
  | opens (will : Payload) (hw : available will = false)
      (hl : q.links = p.links.set (p.connection + 1) ⟨[.connect], false, will⟩) (hr : q.received = p.received)
      (hc : q.connection = p.connection + 1) (hf : q.final = false)
  | writes (topic : String) (payload : Payload) (retain : Bool)
      (hl : q.links = p.links.modify p.connection (fun l => l.write (.publish topic payload retain)))
      (hr : q.received = p.received) (hc : q.connection = p.connection)
      (hf : q.final = true → topic = p.run.availabilityTopic ∧ retain = true ∧ available payload = false)
  | departs (hl : q.links = p.links.modify p.connection (fun l => l.write .disconnect))
      (hr : q.received = p.received) (hc : q.connection = p.connection) (hf : p.final = true)
  | loses (hl : q.links = p.links.modify p.connection (fun l => { l with lost := true }))
      (hr : q.received = p.received) (hc : q.connection = p.connection) (hf : q.final = p.final)
  | receives (n : ℕ) (h : p.receive n = some q)
  | expires (n : ℕ) (h : p.expire n = some q)

section Effect

theorem resume_write {packet : Packet} {run : MqttRun} (h : run.inFlight = some packet) :
    (p.resume run).links = p.links.modify p.connection (fun l => l.write packet) ∧
      (p.resume run).received = p.received ∧ (p.resume run).connection = p.connection := by
  unfold resume
  rw [h]
  dsimp only
  split <;> exact ⟨rfl, rfl, rfl⟩

theorem resume_none {run : MqttRun} (h : run.inFlight = none) : p.resume run = { p with run := run } := by
  unfold resume
  rw [h]
  dsimp only
  split
  · rename_i payload hpc
    simp [MqttRun.inFlight, hpc] at h
  · rfl

theorem resume_final {run : MqttRun} (hp : p.phase = .connected) (h : (p.resume run).final = true) :
    ∃ payload, run.pc = .closing payload := by
  by_contra hno
  have hphase : (p.resume run).phase = .connected := by
    unfold resume
    dsimp only
    split
    · rename_i payload hpc
      exact absurd ⟨payload, hpc⟩ hno
    · split <;> exact hp
  simp [final, hphase] at h

theorem resume_topic {run : MqttRun} : (p.resume run).run.availabilityTopic = run.availabilityTopic := by
  unfold resume
  dsimp only
  split <;> rfl

structure Same (p r : MqttPublisher) : Prop where
  connected : r.phase = .connected
  links : r.links = p.links
  received : r.received = p.received
  connection : r.connection = p.connection
  base : r.run.baseTopic = p.run.baseTopic

theorem effect_resume {r : MqttPublisher} {run : MqttRun} (h : Same p r) (hg : MqttRun.Goes r.run run) :
    (r.resume run).run.availabilityTopic = p.run.availabilityTopic ∧ Effect p (r.resume run) := by
  have htopic : run.availabilityTopic = p.run.availabilityTopic :=
    MqttRun.availabilityTopic_congr (hg.base.trans h.base)
  refine ⟨resume_topic.trans htopic, ?_⟩
  cases hflight : run.inFlight with
  | none =>
    rw [resume_none hflight]
    exact .still h.links h.received h.connection (fun hf => by simp [final, h.connected] at hf)
  | some packet =>
    obtain ⟨topic, payload, retain, rfl⟩ := MqttRun.inFlight_publish hflight
    obtain ⟨hl, hr, hc⟩ := resume_write (p := r) hflight
    rw [h.links, h.connection] at hl
    refine .writes topic payload retain hl (hr.trans h.received) (hc.trans h.connection) fun hf => ?_
    obtain ⟨payload', hpc⟩ := resume_final h.connected hf
    simp only [MqttRun.inFlight, hpc, Option.some.injEq, Packet.publish.injEq] at hflight
    obtain ⟨rfl, rfl, rfl⟩ := hflight
    exact ⟨htopic, rfl, hg.closing payload' hpc⟩

theorem effect_interrupt (departure : Departure) (now : Time) : Effect p (p.interrupt departure now) :=
  .writes _ _ true rfl rfl rfl (fun _ => ⟨rfl, rfl, MqttRun.servicePayload_available p.run false 2 now⟩)

theorem effect_open (now : Time) : Effect p (p.openConnection now) :=
  .opens _ (MqttRun.servicePayload_available p.run false 2 now) rfl rfl rfl rfl

theorem effect_fail (clock randomValue : ℚ) : Effect p (p.fail clock randomValue) :=
  .still rfl rfl rfl (fun h => by simp [fail, final] at h)

theorem effect_stop : Effect p p.stop := .still rfl rfl rfl (fun h => by simp [stop, final] at h)

theorem effect_leave (departure : Departure) (clock randomValue : ℚ) :
    (p.leave departure clock randomValue).run = p.run ∧ Effect p (p.leave departure clock randomValue) := by
  cases departure with
  | returned | cancelled => exact ⟨rfl, effect_stop⟩
  | failed => exact ⟨rfl, effect_fail clock randomValue⟩

theorem effect_receive {n : ℕ} (h : p.receive n = some q) : q.run = p.run := by
  obtain ⟨link, -, h⟩ := Option.bind_eq_some_iff.mp h
  split at h <;> cases h <;> rfl

theorem effect_step {a : PublisherAction} (h : p.step a = some q) :
    q.run.availabilityTopic = p.run.availabilityTopic ∧ Effect p q := by
  cases a with
  | publish event =>
    cases h
    exact ⟨rfl, .still rfl rfl rfl (fun h => h)⟩
  | forget d =>
    cases h
    exact ⟨rfl, .still rfl rfl rfl (fun h => h)⟩
  | start now | woken now =>
    obtain ⟨-, h⟩ := Option.ite_none_right_eq_some.mp h
    cases h
    exact ⟨rfl, effect_open now⟩
  | opened now clock =>
    obtain ⟨-, h⟩ := Option.ite_none_right_eq_some.mp h
    obtain ⟨run, hrun, rfl⟩ := Option.map_eq_some_iff.mp h
    exact effect_resume ⟨rfl, rfl, rfl, rfl, rfl⟩ (MqttRun.goes_connect hrun)
  | refused clock randomValue =>
    obtain ⟨-, h⟩ := Option.ite_none_right_eq_some.mp h
    cases h
    exact ⟨rfl, effect_fail clock randomValue⟩
  | acknowledged now =>
    obtain ⟨⟨hp, -⟩, h⟩ := Option.ite_none_right_eq_some.mp h
    obtain ⟨run, hrun, rfl⟩ := Option.map_eq_some_iff.mp h
    exact effect_resume ⟨hp, rfl, rfl, rfl, rfl⟩ (MqttRun.goes_acknowledge hrun)
  | taken now =>
    obtain ⟨hp, h⟩ := Option.ite_none_right_eq_some.mp h
    obtain ⟨run, hrun, rfl⟩ := Option.map_eq_some_iff.mp h
    exact effect_resume ⟨hp, rfl, rfl, rfl, rfl⟩ (MqttRun.goes_take hrun)
  | timedOut now =>
    obtain ⟨hp, h⟩ := Option.ite_none_right_eq_some.mp h
    obtain ⟨run, hrun, rfl⟩ := Option.map_eq_some_iff.mp h
    exact effect_resume ⟨hp, rfl, rfl, rfl, rfl⟩ (MqttRun.goes_timeout hrun)
  | raised now =>
    obtain ⟨-, h⟩ := Option.ite_none_right_eq_some.mp h
    cases h
    exact ⟨rfl, effect_interrupt .failed now⟩
  | cancelled now =>
    simp only [step] at h
    split at h <;> cases h
    · exact ⟨rfl, effect_stop⟩
    · exact ⟨rfl, effect_stop⟩
    · exact ⟨rfl, effect_stop⟩
    · exact ⟨rfl, effect_interrupt .cancelled now⟩
    · rename_i hp
      exact ⟨rfl, .departs rfl rfl rfl (by simp [final, hp])⟩
  | closed =>
    simp only [step] at h
    split at h <;> cases h
    rename_i hp
    exact ⟨rfl, .departs rfl rfl rfl (by simp [final, hp])⟩
  | left clock randomValue =>
    simp only [step] at h
    split at h <;> cases h
    rename_i departure _
    obtain ⟨hrun, heffect⟩ := effect_leave (p := p) departure clock randomValue
    exact ⟨congrArg MqttRun.availabilityTopic hrun, heffect⟩
  | leftRaising clock randomValue =>
    simp only [step] at h
    split at h <;> cases h
    exact ⟨rfl, effect_fail clock randomValue⟩
  | lose =>
    cases h
    exact ⟨rfl, .loses rfl rfl rfl rfl⟩
  | receive n => exact ⟨congrArg MqttRun.availabilityTopic (effect_receive h), .receives n h⟩
  | expire n =>
    refine ⟨?_, .expires n h⟩
    obtain ⟨link, -, rfl⟩ := Option.map_eq_some_iff.mp h
    rfl

end Effect

/-- The broker retains availability only from a connection it is not done with, whose will is armed. -/
structure Accounted (p : MqttPublisher) : Prop where
  unused : ∀ n, p.connection < n → p.links.get? n = none ∧ p.said n = false
  sound : ∀ n link, p.links.get? n = some link → link.Sound p.run.availabilityTopic (p.said n)
  finished : p.final = true → ∀ link, p.link = some link → link.lost = false →
    link.wire.foldl (Packet.announced p.run.availabilityTopic) (p.said p.connection) = false
  held : ∀ d, p.retained p.run.availabilityTopic = some d → available d.payload = true →
    ∃ link, p.links.get? d.connection = some link ∧ link.accepted = true

section Accounted

theorem find?_and {α : Type} {f g : α → Bool} {l : List α} {a : α} (h : l.find? g = some a) (ha : f a = true) :
    l.find? (fun x => f x && g x) = some a := by
  induction l with
  | nil => cases h
  | cons x l ih =>
    rw [List.find?_cons] at h ⊢
    cases hg : g x with
    | true =>
      rw [hg] at h
      cases h
      rw [ha]
      rfl
    | false =>
      rw [hg] at h
      rw [Bool.and_false]
      exact ih h

theorem said_of_retained {d : Delivery} (h : p.retained p.run.availabilityTopic = some d)
    (ha : available d.payload = true) : p.said d.connection = true := by
  unfold said
  rw [find?_and (f := fun x => decide (x.connection = d.connection)) h (by simp)]
  exact ha

theorem delivered {n : ℕ} {topic : String} {payload : Payload} {retain : Bool}
    (htopic : q.run.availabilityTopic = p.run.availabilityTopic)
    (hr : q.received = ⟨n, topic, payload, retain⟩ :: p.received) :
    (∀ m, q.said m = if m = n then (Packet.publish topic payload retain).announced p.run.availabilityTopic (p.said n)
      else p.said m) ∧
    q.retained p.run.availabilityTopic = if retain = true ∧ topic = p.run.availabilityTopic then
      some ⟨n, topic, payload, retain⟩ else p.retained p.run.availabilityTopic := by
  constructor
  · intro m
    unfold said
    rw [hr, List.find?_cons, htopic]
    by_cases hm : m = n
    · subst hm
      by_cases ht : retain = true ∧ topic = p.run.availabilityTopic
      · simp [ht, Packet.announced]
      · have hfalse : (retain && decide (topic = p.run.availabilityTopic)) = false := by simpa using ht
        simp [hfalse, Packet.announced]
    · have hne : n ≠ m := fun h => hm h.symm
      simp [hm, hne]
  · unfold retained
    rw [hr, List.find?_cons]
    by_cases ht : retain = true ∧ topic = p.run.availabilityTopic
    · simp [ht]
    · have hfalse : (retain && decide (topic = p.run.availabilityTopic)) = false := by simpa using ht
      simp only [hfalse, if_neg ht]

theorem said_congr (htopic : q.run.availabilityTopic = p.run.availabilityTopic) (hr : q.received = p.received) (n : ℕ) :
    q.said n = p.said n := by rw [said, hr, htopic, said]

theorem retained_congr (hr : q.received = p.received) (topic : String) : q.retained topic = p.retained topic := by
  rw [retained, hr, retained]

theorem Accounted.modify (h : p.Accounted) (htopic : q.run.availabilityTopic = p.run.availabilityTopic)
    {f : BrokerLink → BrokerLink} (hl : q.links = p.links.modify p.connection f) (hr : q.received = p.received)
    (hc : q.connection = p.connection)
    (hsound : ∀ link, p.link = some link → (f link).Sound p.run.availabilityTopic (p.said p.connection))
    (haccepted : ∀ link : BrokerLink, link.accepted = true → (f link).accepted = true)
    (hfinished : q.final = true → ∀ link, p.link = some link → (f link).lost = false →
      (f link).wire.foldl (Packet.announced p.run.availabilityTopic) (p.said p.connection) = false) : q.Accounted := by
  constructor
  · intro n hn
    rw [hc] at hn
    rw [said_congr htopic hr, hl, Dict.get?_modify, if_neg (Nat.ne_of_gt hn)]
    exact h.unused n hn
  · intro n link hget
    rw [htopic, said_congr htopic hr]
    rw [hl, Dict.get?_modify] at hget
    split at hget
    · rename_i hn
      subst hn
      obtain ⟨link, hlink, rfl⟩ := Option.map_eq_some_iff.mp hget
      exact hsound link hlink
    · exact h.sound n link hget
  · intro hf link hget hlost
    rw [htopic, hc, said_congr htopic hr]
    rw [MqttPublisher.link, hl, hc, Dict.get?_modify, if_pos rfl] at hget
    obtain ⟨link, hlink, rfl⟩ := Option.map_eq_some_iff.mp hget
    exact hfinished hf link hlink hlost
  · intro d hd ha
    rw [htopic, retained_congr hr] at hd
    obtain ⟨link, hget, hacc⟩ := h.held d hd ha
    rw [hl, Dict.get?_modify]
    split
    · rename_i hn
      rw [hn] at hget
      exact ⟨f link, by rw [hget]; rfl, haccepted link hacc⟩
    · exact ⟨link, hget, hacc⟩

theorem Accounted.opens (h : p.Accounted) (htopic : q.run.availabilityTopic = p.run.availabilityTopic) {will : Payload}
    (hw : available will = false) (hl : q.links = p.links.set (p.connection + 1) ⟨[.connect], false, will⟩)
    (hr : q.received = p.received) (hc : q.connection = p.connection + 1) (hf : q.final = false) : q.Accounted := by
  constructor
  · intro n hn
    rw [hc] at hn
    rw [said_congr htopic hr, hl, Dict.get?_set, if_neg (Nat.ne_of_gt hn)]
    exact h.unused n (Nat.lt_of_succ_lt hn)
  · intro n link hget
    rw [htopic, said_congr htopic hr]
    rw [hl, Dict.get?_set] at hget
    split at hget
    · rename_i hn
      subst hn
      cases hget
      rw [(h.unused _ (Nat.lt_succ_self _)).2]
      exact ⟨rfl, fun _ => rfl, hw, trivial⟩
    · exact h.sound n link hget
  · intro hfinal
    rw [hf] at hfinal
    cases hfinal
  · intro d hd ha
    rw [htopic, retained_congr hr] at hd
    obtain ⟨link, hget, hacc⟩ := h.held d hd ha
    refine ⟨link, ?_, hacc⟩
    have hne : d.connection ≠ p.connection + 1 := by
      intro hx
      rw [hx, (h.unused _ (Nat.lt_succ_self _)).1] at hget
      cases hget
    rw [hl, Dict.get?_set, if_neg hne]
    exact hget

theorem Accounted.still (h : p.Accounted) (htopic : q.run.availabilityTopic = p.run.availabilityTopic)
    (hl : q.links = p.links) (hr : q.received = p.received) (hc : q.connection = p.connection)
    (hf : q.final = true → p.final = true) : q.Accounted := by
  refine ⟨fun n hn => ?_, fun n link hget => ?_, fun hfinal link hget hlost => ?_, fun d hd ha => ?_⟩
  · rw [hc] at hn
    rw [said_congr htopic hr, hl]
    exact h.unused n hn
  · rw [htopic, said_congr htopic hr]
    exact h.sound n link (hl ▸ hget)
  · rw [htopic, hc, said_congr htopic hr]
    rw [MqttPublisher.link, hl, hc] at hget
    exact h.finished (hf hfinal) link hget hlost
  · rw [htopic, retained_congr hr] at hd
    rw [hl]
    exact h.held d hd ha

theorem Accounted.erases (h : p.Accounted) {n : ℕ} (hrun : q.run = p.run) (hphase : q.phase = p.phase)
    (hl : q.links = p.links.erase n) (hc : q.connection = p.connection)
    (hsaid : ∀ m, m ≠ n → q.said m = p.said m) (hquiet : q.said n = false)
    (hheld : ∀ d, q.retained p.run.availabilityTopic = some d → available d.payload = true →
      d.connection ≠ n ∧ p.retained p.run.availabilityTopic = some d) : q.Accounted := by
  constructor
  · intro m hm
    rw [hc] at hm
    rw [hl, Dict.get?_erase]
    by_cases hmn : m = n
    · subst hmn
      exact ⟨by simp, hquiet⟩
    · rw [if_neg hmn, hsaid m hmn]
      exact h.unused m hm
  · intro m link hget
    rw [hl, Dict.get?_erase] at hget
    split at hget
    · cases hget
    · rename_i hmn
      rw [hrun, hsaid m hmn]
      exact h.sound m link hget
  · intro hfinal link hget hlost
    rw [MqttPublisher.link, hl, hc, Dict.get?_erase] at hget
    split at hget
    · cases hget
    · rename_i hmn
      rw [hrun, hc, hsaid _ hmn]
      exact h.finished (by rwa [final, hphase] at hfinal) link hget hlost
  · intro d hd ha
    rw [hrun] at hd
    obtain ⟨hne, hd'⟩ := hheld d hd ha
    obtain ⟨link, hget, hacc⟩ := h.held d hd' ha
    exact ⟨link, by rw [hl, Dict.get?_erase, if_neg hne]; exact hget, hacc⟩

theorem Accounted.leaves (h : p.Accounted) {n : ℕ} (hquiet : p.said n = false) (hrun : q.run = p.run)
    (hphase : q.phase = p.phase) (hl : q.links = p.links.erase n) (hc : q.connection = p.connection)
    (hr : q.received = p.received) : q.Accounted := by
  have hsaid : ∀ m, q.said m = p.said m := said_congr (congrArg MqttRun.availabilityTopic hrun) hr
  refine h.erases hrun hphase hl hc (fun m _ => hsaid m) ((hsaid n).trans hquiet) fun d hd ha => ?_
  rw [retained_congr hr] at hd
  refine ⟨?_, hd⟩
  rintro rfl
  rw [said_of_retained hd ha] at hquiet
  cases hquiet

theorem Accounted.advances (h : p.Accounted) {n : ℕ} {link : BrokerLink} {packet : Packet} {rest : List Packet}
    (hget : p.links.get? n = some link) (hwire : link.wire = packet :: rest) (hp : packet ≠ .disconnect)
    (hrun : q.run = p.run) (hphase : q.phase = p.phase) (hl : q.links = p.links.set n { link with wire := rest })
    (hc : q.connection = p.connection)
    (hsaid : ∀ m, q.said m = if m = n then packet.announced p.run.availabilityTopic (p.said n) else p.said m)
    (hheld : ∀ d, q.retained p.run.availabilityTopic = some d →
      d.connection = n ∨ p.retained p.run.availabilityTopic = some d) : q.Accounted := by
  obtain ⟨hsound, hacc⟩ := (h.sound n link hget).next hwire hp
  constructor
  · intro m hm
    rw [hc] at hm
    have hmn : m ≠ n := by
      rintro rfl
      rw [(h.unused m hm).1] at hget
      cases hget
    rw [hl, Dict.get?_set, if_neg hmn, hsaid m, if_neg hmn]
    exact h.unused m hm
  · intro m link' hget'
    rw [hrun, hsaid m]
    rw [hl, Dict.get?_set] at hget'
    split at hget'
    · rename_i hmn
      cases hget'
      rw [if_pos hmn]
      exact hsound
    · rename_i hmn
      rw [if_neg hmn]
      exact h.sound m link' hget'
  · intro hfinal link' hget' hlost
    rw [final, hphase] at hfinal
    rw [MqttPublisher.link, hl, hc, Dict.get?_set] at hget'
    rw [hrun, hc, hsaid]
    split at hget'
    · rename_i hn
      cases hget'
      have hold := h.finished hfinal link (by rw [MqttPublisher.link, hn]; exact hget) hlost
      rw [hwire, List.foldl_cons, hn] at hold
      rw [if_pos hn]
      exact hold
    · rename_i hn
      rw [if_neg hn]
      exact h.finished hfinal link' hget' hlost
  · intro d hd ha
    rw [hrun] at hd
    rw [hl, Dict.get?_set]
    by_cases hn : d.connection = n
    · exact ⟨_, if_pos hn, hacc⟩
    · rw [if_neg hn]
      exact h.held d ((hheld d hd).resolve_left hn) ha

theorem accounted_receive {n : ℕ} (h : p.Accounted) (hs : p.receive n = some q) : q.Accounted := by
  obtain ⟨link, hget, hs⟩ := Option.bind_eq_some_iff.mp hs
  have hsound := h.sound n link hget
  split at hs
  · cases hs
  · rename_i rest hwire
    cases hs
    refine h.advances hget hwire (fun hx => by cases hx) rfl rfl rfl rfl (fun m => ?_) (fun d hd => .inr hd)
    split
    · rename_i hm
      rw [hm]
      rfl
    · rfl
  · rename_i topic payload retain rest hwire
    cases hs
    obtain ⟨hsaid, hretained⟩ := delivered (p := p) (q := { p with
      links := p.links.set n { link with wire := rest }
      received := ⟨n, topic, payload, retain⟩ :: p.received }) rfl rfl
    refine h.advances hget hwire (fun hx => by cases hx) rfl rfl rfl rfl hsaid (fun d hd => ?_)
    rw [hretained] at hd
    split at hd
    · cases hd
      exact .inl rfl
    · exact .inr hd
  · rename_i rest hwire
    cases hs
    have hdis := hsound.discharged
    rw [hwire] at hdis
    exact h.leaves hdis.1 rfl rfl rfl rfl rfl

theorem accounted_expire {n : ℕ} (h : p.Accounted) (hs : p.expire n = some q) : q.Accounted := by
  obtain ⟨link, hget, rfl⟩ := Option.map_eq_some_iff.mp hs
  by_cases hacc : link.accepted = true
  · obtain ⟨hsaid, hretained⟩ := delivered (p := p) (q := { p with
      links := p.links.erase n
      received := ⟨n, p.run.availabilityTopic, link.will, true⟩ :: p.received }) rfl rfl
    simp only [hacc, ↓reduceIte]
    have hwill := (h.sound n link hget).will
    refine h.erases rfl rfl rfl rfl (fun m hm => (hsaid m).trans (if_neg hm)) ?_ (fun d hd ha => ?_)
    · rw [hsaid n, if_pos rfl]
      simp [Packet.announced, hwill]
    · rw [hretained, if_pos ⟨rfl, rfl⟩] at hd
      cases hd
      rw [hwill] at ha
      cases ha
  · simp only [hacc, Bool.false_eq_true, ↓reduceIte]
    exact h.leaves ((h.sound n link hget).silent (by simpa using hacc)) rfl rfl rfl rfl rfl

theorem accounted_effect (h : p.Accounted) (htopic : q.run.availabilityTopic = p.run.availabilityTopic)
    (he : Effect p q) : q.Accounted := by
  cases he with
  | still hl hr hc hf => exact h.still htopic hl hr hc hf
  | opens will hw hl hr hc hf => exact h.opens htopic hw hl hr hc hf
  | writes topic payload retain hl hr hc hf =>
    refine h.modify htopic hl hr hc (fun link hlink => (h.sound _ link hlink).publish topic payload retain)
      (fun link hacc => (link.accepted_write rfl).trans hacc) (fun hfinal link _ hlost => ?_)
    obtain ⟨rfl, rfl, hpayload⟩ := hf hfinal
    unfold BrokerLink.write at hlost ⊢
    split
    · rename_i hl
      rw [if_pos hl, hl] at hlost
      cases hlost
    · simp [Packet.announced, hpayload]
  | departs hl hr hc hf =>
    have hfinished := fun link hlink => h.finished hf link hlink
    refine h.modify htopic hl hr hc (fun link hlink => (h.sound _ link hlink).disconnect (hfinished link hlink))
      (fun link hacc => (link.accepted_write rfl).trans hacc) (fun _ link hlink hlost => ?_)
    unfold BrokerLink.write at hlost ⊢
    split
    · rename_i hl
      rw [if_pos hl, hl] at hlost
      cases hlost
    · rename_i hl
      rw [if_neg hl] at hlost
      simpa [Packet.announced] using hfinished link hlink hlost
  | loses hl hr hc hf =>
    refine h.modify htopic hl hr hc (fun link hlink => ?_) (fun _ hacc => hacc) (fun _ _ _ hlost => by cases hlost)
    have hsound := h.sound _ link hlink
    exact ⟨hsound.connects, hsound.silent, hsound.will, hsound.discharged⟩
  | receives n hs => exact accounted_receive h hs
  | expires n hs => exact accounted_expire h hs

theorem accounted_initial (h : p.Initial) : p.Accounted := by
  obtain ⟨run, stableAfter, backoff, -, -, rfl⟩ := h
  exact ⟨fun _ _ => ⟨rfl, rfl⟩, fun _ _ h => (by cases h), fun h => (by cases h), fun _ h => (by cases h)⟩

theorem availability_withdrawn (h : Reachable Initial step p) {d : Delivery}
    (hd : p.retained p.run.availabilityTopic = some d) (ha : available d.payload = true) :
    ∃ link, p.links.get? d.connection = some link ∧ link.accepted = true ∧ available link.will = false := by
  have hinv : p.Accounted := h.invariant (fun _ => accounted_initial)
    (fun _ _ _ h _ hs => accounted_effect h (effect_step hs).1 (effect_step hs).2)
  obtain ⟨link, hget, hacc⟩ := hinv.held d hd ha
  exact ⟨link, hget, hacc, (hinv.sound _ link hget).will⟩

def smallPublisher : MqttPublisher := .create MqttRun.smallRun 60 .default

theorem smallPublisher_initial : smallPublisher.Initial := ⟨_, _, _, MqttRun.smallRun_initial, rfl, rfl⟩

theorem availability_withdrawn_lost : ∃ p d link, replay step smallPublisher [.start 0, .receive 1, .opened 1 0,
      .receive 1, .acknowledged 2, .lose, .timedOut 3, .raised 4, .closed, .left 5 0] = some p ∧
    p.state = .backoff ∧ p.retained p.run.availabilityTopic = some d ∧ available d.payload = true ∧
    p.links.get? d.connection = some link ∧ available link.will = false := by
  have hrun : (replay step smallPublisher [.start 0, .receive 1, .opened 1 0, .receive 1, .acknowledged 2, .lose,
      .timedOut 3, .raised 4, .closed, .left 5 0]).any (fun p => p.state = .backoff &&
        (p.retained p.run.availabilityTopic).any (fun d => available d.payload)) := by decide +kernel
  obtain ⟨p, hp, hm⟩ := (Option.any_eq_true _ _).mp hrun
  simp only [Bool.and_eq_true, decide_eq_true_eq, Option.any_eq_true] at hm
  obtain ⟨hstate, d, hd, ha⟩ := hm
  obtain ⟨link, hget, -, hwill⟩ := availability_withdrawn (.of_replay (.init smallPublisher_initial) hp) hd ha
  exact ⟨p, d, link, hp, hstate, hd, ha, hget, hwill⟩

end Accounted

end MqttPublisher

end PitbluCore
