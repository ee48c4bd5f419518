import PitbluCore.MqttAvailability

namespace PitbluCore

open Library

def Lasting (baseTopic topic : String) : Prop :=
  topic ≠ stripSlashes baseTopic ++ "/v1/service/availability" ∧
    ∀ e, WellFormed e → e.type = .probeTemperature → topicFor baseTopic e ≠ some topic

namespace MqttRun

variable {s t : MqttRun} {now : Time}

def live (s : MqttRun) : Bool :=
  match s.pc with
  | .announcing _ | .replaying _ _ | .waiting | .heartbeating _ | .publishing _ => true
  | .disconnected | .flushing _ _ | .closing _ | .stopped => false

end MqttRun

namespace MqttPublisher

variable {p q : MqttPublisher}

def Agrees (p : MqttPublisher) (sent : List (String × Payload)) : Prop :=
  ∀ topic, Lasting p.run.baseTopic topic → (p.retained topic).map Delivery.payload = sent.lookup topic

def Hushed (p : MqttPublisher) : Prop :=
  ∀ n link, n ≠ p.connection → p.links.get? n = some link → ∀ topic payload retain,
    .publish topic payload retain ∈ link.wire → topic = p.run.availabilityTopic

/-- What a connection that is not lost has under way. -/
def UnderWay (p : MqttPublisher) : Prop :=
  match p.run.inFlight with
  | none => p.Agrees p.run.sent ∧ ∀ link, p.link = some link → link.wire = []
  | some packet => ∀ link, p.link = some link → link.lost = false →
    ∀ topic payload retain, packet = .publish topic payload retain →
      link.wire = [] ∧ p.Agrees ((topic, payload) :: p.run.sent) ∨ link.wire = [packet] ∧ p.Agrees p.run.sent

structure Mirrored (p : MqttPublisher) : Prop where
  tidy : MqttRun.Tidy p.run
  apart : p.phase ≠ .connected → p.run.pc = .disconnected
  hushed : p.phase = .connected → p.Hushed
  underWay : p.phase = .connected → p.run.live = true → p.UnderWay

section Mirrored

theorem UnderWay.mono (hu : p.UnderWay) (hflight : q.run.inFlight = p.run.inFlight) (hsent : q.run.sent = p.run.sent)
    (hagrees : ∀ sent, p.Agrees sent → q.Agrees sent) (hlink : ∀ link, q.link = some link → p.link = some link) :
    q.UnderWay := by
  unfold UnderWay at hu ⊢
  rw [hflight, hsent]
  cases hf : p.run.inFlight with
  | none =>
    rw [hf] at hu
    exact ⟨hagrees _ hu.1, fun link hl => hu.2 link (hlink link hl)⟩
  | some packet =>
    rw [hf] at hu
    intro link hl hlost topic payload retain hp
    exact (hu link (hlink link hl) hlost topic payload retain hp).imp (fun hx => ⟨hx.1, hagrees _ hx.2⟩)
      (fun hx => ⟨hx.1, hagrees _ hx.2⟩)

end Mirrored

/-- The events published are well formed, and a connection opens once the broker has received the device
events of the earlier ones or given them up. -/
def Settles (p : MqttPublisher) : PublisherAction → Prop
  | .publish event => WellFormed event
  | .opened _ _ => p.Hushed
  | _ => True

section Steps

end Steps

end MqttPublisher

end PitbluCore
