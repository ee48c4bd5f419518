import PitbluCore.Events

/-!
The MQTT publisher over one broker connection in which every `client.publish`
succeeds. Each `client.publish` and `queue.get` is a suspension point.
-/

namespace PitbluCore

open Library

def stripSlashes (s : String) : String :=
  String.ofList (((s.toList.dropWhile (· = '/')).reverse.dropWhile (· = '/')).reverse)

def EventType.topicPart : EventType → Option String
  | .deviceAvailability => some "availability"
  | .deviceConnection => some "connection"
  | .thermometerHeartbeat => some "heartbeat"
  | .battery => some "battery"
  | _ => none

def topicFor (baseTopic : String) (event : TelemetryEvent) : Option String :=
  let base := stripSlashes baseTopic
  if event.type = .serviceAvailability then some (base ++ "/v1/service/availability")
  else match event.deviceId with
    | none => none
    | some d =>
      match event.type.topicPart with
      | some part => some (base ++ "/v1/devices/" ++ d ++ "/" ++ part)
      | none =>
        match event.probe with
        | none => none
        | some n =>
          let leaf := if event.type = .probeAvailability then "availability" else "temperature"
          some (base ++ "/v1/devices/" ++ d ++ "/probes/" ++ n.repr ++ "/" ++ leaf)

abbrev Payload := Dict String Datum

def mqttPayload (event : TelemetryEvent) : Payload :=
  let payload := Dict.ofList [("schemaVersion", .int 1), ("observedAt", .time event.observedAt),
    ("sequence", .int event.sequence), ("source", .str event.source.value)]
  let payload := match event.sessionId with
    | some n => payload.set "sessionId" (.int n)
    | none => payload
  let payload := match event.deviceId with
    | some d => payload.set "deviceId" (.str d)
    | none => payload
  let payload := match event.probe with
    | some n => payload.set "probe" (.int n)
    | none => payload
  event.data.foldl (fun payload e => payload.set e.1 e.2) payload

def EventType.retained (t : EventType) : Bool := t ≠ .probeTemperature

def EventType.isTelemetry (t : EventType) : Bool := t ≠ .operation && t ≠ .configuration

inductive PublisherPc
  | disconnected
  | announcing (available : Payload)
  | replaying (event : TelemetryEvent) (rest : List TelemetryEvent)
  | waiting
  | heartbeating (available : Payload)
  | publishing (event : TelemetryEvent)
  | flushing (event : TelemetryEvent) (rest : List TelemetryEvent)
  | closing (unavailable : Payload)
  | stopped
  deriving DecidableEq

/-- `sent` holds the publications that the broker has acknowledged, the last one first; `evicted` the
events that overflow has dropped unread from the publisher's queue after the replay list was taken. No
step reads `evicted`. -/
structure MqttRun where
  bus : EventBus
  baseTopic : String
  source : TelemetrySource
  queueId : ℕ
  pc : PublisherPc
  sent : List (String × Payload)
  evicted : List TelemetryEvent

namespace MqttRun

def create (bus : EventBus) (baseTopic : String) (source : TelemetrySource) : MqttRun :=
  ⟨bus, baseTopic, source, 0, .disconnected, [], []⟩

def queue (s : MqttRun) : List TelemetryEvent := s.bus.queue s.queueId

def availabilityTopic (s : MqttRun) : String := stripSlashes s.baseTopic ++ "/v1/service/availability"

def servicePayload (s : MqttRun) (available : Bool) (sequence : ℕ) (now : Time) : Payload :=
  Dict.ofList [("schemaVersion", .int 1), ("available", .bool available), ("observedAt", .time now),
    ("sequence", .int sequence), ("source", .str s.source.value), ("sessionId", .int s.bus.sessionId)]

def replayed (s : MqttRun) : Bool :=
  match s.pc with
  | .replaying _ _ | .waiting | .heartbeating _ | .publishing _ => true
  | _ => false

def overflow (s : MqttRun) : List TelemetryEvent :=
  if s.queue.length < s.bus.subscriberQueueSize then [] else s.queue.take 1

def publish (s : MqttRun) (event : TelemetryEvent) : MqttRun :=
  { s with bus := s.bus.publish event
           evicted := if s.replayed then s.overflow ++ s.evicted else s.evicted }

def finish (s : MqttRun) (now : Time) : MqttRun :=
  { s with bus := s.bus.unsubscribe s.queueId, pc := .closing (s.servicePayload false 2 now) }

def replayable (events : List TelemetryEvent) : List TelemetryEvent :=
  events.filter (fun e => e.type ≠ .serviceAvailability && e.type.isTelemetry)

def replay (s : MqttRun) (events : List TelemetryEvent) (now : Time) : MqttRun :=
  match replayable events with
  | [] => { s with pc := .waiting }
  | e :: rest => if (topicFor s.baseTopic e).isSome then { s with pc := .replaying e rest } else s.finish now

def flush (s : MqttRun) (events : List TelemetryEvent) (now : Time) : MqttRun :=
  match replayable events with
  | [] => s.finish now
  | e :: rest => if (topicFor s.baseTopic e).isSome then { s with pc := .flushing e rest } else s.finish now

def record (s : MqttRun) (topic : String) (payload : Payload) : MqttRun :=
  { s with sent := (topic, payload) :: s.sent }

def recordEvent (s : MqttRun) (event : TelemetryEvent) : MqttRun :=
  match topicFor s.baseTopic event with
  | some topic => s.record topic (mqttPayload event)
  | none => s

def acknowledge (s : MqttRun) (now : Time) : Option MqttRun :=
  match s.pc with
  | .announcing payload =>
    let s := s.record s.availabilityTopic payload
    some (s.replay s.bus.retainedState now)
  | .replaying e rest => some ((s.recordEvent e).replay rest now)
  | .heartbeating payload => some { s.record s.availabilityTopic payload with pc := .waiting }
  | .publishing e => some { s.recordEvent e with pc := .waiting }
  | .flushing e rest => some ((s.recordEvent e).flush rest now)
  | .closing payload => some { s.record s.availabilityTopic payload with pc := .stopped }
  | .disconnected | .waiting | .stopped => none

def isShutdown (e : TelemetryEvent) : Bool :=
  e.type = .serviceAvailability && e.data.lookup "available" = some (.bool false)

def withBus (s : MqttRun) (bus : EventBus) : MqttRun := { s with bus := bus }

def received (s : MqttRun) (e : TelemetryEvent) (now : Time) : MqttRun :=
  if isShutdown e then s.flush s.bus.retainedState now
  else if !e.type.isTelemetry then s
  else if (topicFor s.baseTopic e).isSome then { s with pc := .publishing e }
  else s.finish now

/-- `queue.get()` returns an event. A get on a queue that is not empty does not suspend; a step of its
own only adds interleavings. -/
def take (s : MqttRun) (now : Time) : Option MqttRun :=
  match s.pc with
  | .waiting => (s.bus.get s.queueId).map (fun (e, bus) => (s.withBus bus).received e now)
  | _ => none

def timeout (s : MqttRun) (now : Time) : Option MqttRun :=
  match s.pc with
  | .waiting => some { s with pc := .heartbeating (s.servicePayload true 1 now) }
  | _ => none

def connect (s : MqttRun) (now : Time) : Option MqttRun :=
  match s.pc with
  | .disconnected =>
    some { s.withBus s.bus.subscribe.1 with
      queueId := s.bus.subscribe.2
      pc := .announcing (s.servicePayload true 1 now) }
  | _ => none

end MqttRun

inductive MqttAction
  | publish (event : TelemetryEvent)
  | forget (deviceId : DeviceId)
  | connect (now : Time)
  | acknowledge (now : Time)
  | take (now : Time)
  | timeout (now : Time)

def MqttRun.step (s : MqttRun) : MqttAction → Option MqttRun
  | .publish event => some (s.publish event)
  | .forget d => some (s.withBus (s.bus.forgetDevice d))
  | .connect now => s.connect now
  | .acknowledge now => s.acknowledge now
  | .take now => s.take now
  | .timeout now => s.timeout now

def MqttRun.Initial (s : MqttRun) : Prop :=
  ∃ historySize queueSize sessionId h h' baseTopic source,
    s = .create (.create historySize queueSize sessionId h h') baseTopic source

end PitbluCore
