import PitbluCore.Backoff
import PitbluCore.MqttRetained

/-!
The publisher across connections, with the broker at the other end of each. A connection is
an ordered stream of which the broker receives a prefix: it is done with a connection when it
receives DISCONNECT, and when it gives the connection up, which publishes the will. Streams
of several connections can be under way at once. The quality of service is the same in every
publication and not modelled; a publication is acknowledged once it has been received.
-/

namespace PitbluCore

open Library

inductive Packet
  | connect
  | publish (topic : String) (payload : Payload) (retain : Bool)
  | disconnect

/-- What the client has written to a connection and the broker has not received. Nothing is written to a
connection that is lost. -/
structure BrokerLink where
  wire : List Packet
  lost : Bool
  will : Payload

namespace BrokerLink

def write (l : BrokerLink) (packet : Packet) : BrokerLink := if l.lost then l else { l with wire := l.wire ++ [packet] }

def isConnect : Packet → Bool
  | .connect => true
  | _ => false

def accepted (l : BrokerLink) : Bool := !l.wire.any isConnect

def answered (l : BrokerLink) : Bool := !l.lost && l.wire.isEmpty

end BrokerLink

structure Delivery where
  connection : ℕ
  topic : String
  payload : Payload
  retain : Bool

inductive Departure
  | returned
  | failed
  | cancelled
  deriving DecidableEq

inductive PublisherPhase
  | idle
  | opening
  | connected
  | closing (departure : Departure)
  | leaving (departure : Departure)
  | sleeping
  | ended
  deriving DecidableEq

inductive PublisherState
  | starting
  | connecting
  | connected
  | backoff
  | stopped
  deriving DecidableEq

def PublisherState.value : PublisherState → String
  | .starting => "starting"
  | .connecting => "connecting"
  | .connected => "connected"
  | .backoff => "backoff"
  | .stopped => "stopped"

namespace MqttRun

def inFlight (s : MqttRun) : Option Packet :=
  match s.pc with
  | .announcing payload | .heartbeating payload | .closing payload => some (.publish s.availabilityTopic payload true)
  | .replaying e _ | .publishing e | .flushing e _ =>
    (topicFor s.baseTopic e).map (fun topic => .publish topic (mqttPayload e) e.type.retained)
  | .disconnected | .waiting | .stopped => none

def departure (s : MqttRun) : Departure :=
  match s.pc, s.queue with
  | .flushing _ rest, _ => if replayable rest = [] then .returned else .failed
  | .waiting, e :: _ => if isShutdown e && replayable s.bus.retainedState = [] then .returned else .failed
  | _, _ => .failed

def detach (s : MqttRun) : MqttRun := { s with pc := .disconnected, bus := s.bus.unsubscribe s.queueId }

end MqttRun

/-- `connection` counts the connections opened; `links` are those that the broker is not done with, and
`received` what it has received, the last delivery first. In a connected run `sent` is what the
connection has published over all that the broker had to retain when it opened. `outages` is how long
the connection had been open at each failure, the last one first. No step reads `outages`. -/
structure MqttPublisher where
  run : MqttRun
  phase : PublisherPhase
  stableAfter : ℚ
  backoff : JitteredBackoffPolicy
  state : PublisherState
  failures : ℕ
  errorCode : Option String
  retryIn : Option ℚ
  connectedAt : Option ℚ
  connection : ℕ
  links : Dict ℕ BrokerLink
  received : List Delivery
  outages : List (Option ℚ)

structure MqttStatus where
  state : String
  failures : ℕ
  errorCode : Option String
  retryIn : Option ℚ
  deriving DecidableEq

namespace MqttPublisher

def create (run : MqttRun) (stableAfter : ℚ) (backoff : JitteredBackoffPolicy) : MqttPublisher where
  run := run
  phase := .idle
  stableAfter := stableAfter
  backoff := backoff
  state := .starting
  failures := 0
  errorCode := none
  retryIn := none
  connectedAt := none
  connection := 0
  links := Dict.empty
  received := []
  outages := []

variable (p : MqttPublisher)

def status : MqttStatus := ⟨p.state.value, p.failures, p.errorCode, p.retryIn⟩

def link : Option BrokerLink := p.links.get? p.connection

def write (packet : Packet) : MqttPublisher :=
  { p with links := p.links.modify p.connection (fun l => l.write packet) }

def openConnection (now : Time) : MqttPublisher :=
  { p with
    phase := .opening
    state := .connecting
    connectedAt := none
    connection := p.connection + 1
    links := p.links.set (p.connection + 1) ⟨[.connect], false, p.run.servicePayload false 2 now⟩ }

def fail (clock randomValue : ℚ) : MqttPublisher :=
  let up := p.connectedAt.map (fun t => clock - t)
  let backoff := if up.any (fun d => p.stableAfter ≤ d) then p.backoff.reset else p.backoff
  { p with
    failures := p.failures + 1
    errorCode := some "mqtt_connection_failed"
    state := .backoff
    backoff := (backoff.nextDelay randomValue).2
    retryIn := some (backoff.nextDelay randomValue).1
    phase := .sleeping
    outages := up :: p.outages }

def stop : MqttPublisher := { p with state := .stopped, retryIn := none, phase := .ended }

def resume (run : MqttRun) : MqttPublisher :=
  let next := match run.inFlight with
    | some packet => p.write packet
    | none => p
  match run.pc with
  | .closing _ => { next with run := { run with pc := .disconnected }, phase := .closing p.run.departure }
  | _ => { next with run := run }

def interrupt (departure : Departure) (now : Time) : MqttPublisher :=
  { p.write (.publish p.run.availabilityTopic (p.run.servicePayload false 2 now) true) with
    run := p.run.detach
    phase := .closing departure }

def depart (departure : Departure) : MqttPublisher := { p.write .disconnect with phase := .leaving departure }

def leave (departure : Departure) (clock randomValue : ℚ) : MqttPublisher :=
  match departure with
  | .returned | .cancelled => p.stop
  | .failed => p.fail clock randomValue

def entered (clock : ℚ) : MqttPublisher :=
  { p with
    run := { p.run with
      sent := (p.received.filter Delivery.retain).map (fun d => (d.topic, d.payload))
      evicted := [] }
    phase := .connected
    connectedAt := some clock
    state := .connected
    errorCode := none
    retryIn := none }

def opened (now : Time) (clock : ℚ) : Option MqttPublisher :=
  if p.phase = .opening ∧ p.link.any BrokerLink.answered then
    ((p.entered clock).run.connect now).map (p.entered clock).resume
  else none

def receive (n : ℕ) : Option MqttPublisher :=
  (p.links.get? n).bind fun link =>
    match link.wire with
    | [] => none
    | .connect :: rest => some { p with links := p.links.set n { link with wire := rest } }
    | .publish topic payload retain :: rest => some { p with
        links := p.links.set n { link with wire := rest }
        received := ⟨n, topic, payload, retain⟩ :: p.received }
    | .disconnect :: _ => some { p with links := p.links.erase n }

def expire (n : ℕ) : Option MqttPublisher :=
  (p.links.get? n).map fun link => { p with
    links := p.links.erase n
    received := if link.accepted then ⟨n, p.run.availabilityTopic, link.will, true⟩ :: p.received else p.received }

end MqttPublisher

/-- `opened`, `refused`, `acknowledged`, `taken`, `timedOut`, `raised`, `closed`, `left`, `leftRaising`
and `woken` are how an `await` of the publisher ends, `cancelled` is a cancellation at one. -/
inductive PublisherAction
  | publish (event : TelemetryEvent)
  | forget (deviceId : DeviceId)
  | start (now : Time)
  | opened (now : Time) (clock : ℚ)
  | refused (clock randomValue : ℚ)
  | acknowledged (now : Time)
  | taken (now : Time)
  | timedOut (now : Time)
  | raised (now : Time)
  | cancelled (now : Time)
  | closed
  | left (clock randomValue : ℚ)
  | leftRaising (clock randomValue : ℚ)
  | woken (now : Time)
  | lose
  | receive (connection : ℕ)
  | expire (connection : ℕ)

namespace MqttPublisher

def step (p : MqttPublisher) : PublisherAction → Option MqttPublisher
  | .publish event => some { p with run := p.run.publish event }
  | .forget d => some { p with run := p.run.withBus (p.run.bus.forgetDevice d) }
  | .start now => if p.phase = .idle then some (p.openConnection now) else none
  | .opened now clock => p.opened now clock
  | .refused clock randomValue => if p.phase = .opening then some (p.fail clock randomValue) else none
  | .acknowledged now =>
    if p.phase = .connected ∧ p.link.any BrokerLink.answered then (p.run.acknowledge now).map p.resume else none
  | .taken now => if p.phase = .connected then (p.run.take now).map p.resume else none
  | .timedOut now => if p.phase = .connected then (p.run.timeout now).map p.resume else none
  | .raised now => if p.phase = .connected ∧ p.run.inFlight.isSome then some (p.interrupt .failed now) else none
  | .cancelled now =>
    match p.phase with
    | .idle | .ended => none
    | .opening | .leaving _ | .sleeping => some p.stop
    | .connected => some (p.interrupt .cancelled now)
    | .closing _ => some (p.depart .cancelled)
  | .closed =>
    -- `suppress` hides how the last publication ends
    match p.phase with
    | .closing departure => some (p.depart departure)
    | _ => none
  | .left clock randomValue =>
    match p.phase with
    | .leaving departure => some (p.leave departure clock randomValue)
    | _ => none
  | .leftRaising clock randomValue =>
    -- an exception of the client's exit takes the place of a cancellation
    match p.phase with
    | .leaving _ => some (p.fail clock randomValue)
    | _ => none
  | .woken now => if p.phase = .sleeping then some (p.openConnection now) else none
  | .lose => some { p with links := p.links.modify p.connection (fun l => { l with lost := true }) }
  | .receive n => p.receive n
  | .expire n => p.expire n

def Initial (p : MqttPublisher) : Prop :=
  ∃ run stableAfter backoff, run.Initial ∧ backoff.attempt = 0 ∧ p = .create run stableAfter backoff

end MqttPublisher

end PitbluCore
