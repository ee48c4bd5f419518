import PitbluCore.Library.Dict
import PitbluCore.Models

namespace PitbluCore

open Library

inductive EventType
  | serviceAvailability
  | deviceAvailability
  | deviceConnection
  | thermometerHeartbeat
  | battery
  | probeAvailability
  | probeTemperature
  | operation
  | configuration
  deriving DecidableEq

/-- The values event data carries; an ISO formatted time is kept as the time it formats. -/
inductive Datum
  | null
  | bool (b : Bool)
  | int (i : ℤ)
  | number (q : ℚ)
  | str (s : String)
  | time (t : Time)
  | strs (l : List String)
  deriving DecidableEq

abbrev EventData := List (String × Datum)

abbrev EventKey := Option DeviceId × EventType × Option ℕ

structure TelemetryEvent where
  eventId : ℕ
  sessionId : Option ℕ
  type : EventType
  observedAt : Time
  sequence : ℕ
  source : TelemetrySource
  deviceId : Option DeviceId
  probe : Option ℕ
  data : EventData
  deriving DecidableEq

def TelemetryEvent.key (e : TelemetryEvent) : EventKey := (e.deviceId, e.type, e.probe)

def TelemetryEvent.persisted (e : TelemetryEvent) : Bool :=
  e.type = .operation || e.type = .configuration

def EventType.keepsLatest (t : EventType) : Bool :=
  t ≠ .operation && t ≠ .configuration && t ≠ .probeTemperature

/-- `published` is every event of the session in publication order, newest first; it is history that no
operation reads. `subscribers` are the bounded queues, oldest event first. -/
structure EventBus where
  historySize : ℕ
  subscriberQueueSize : ℕ
  sessionId : ℕ
  history : List TelemetryEvent
  subscribers : List (ℕ × List TelemetryEvent)
  nextSubscriber : ℕ
  latest : Dict EventKey TelemetryEvent
  persistedEvents : List TelemetryEvent
  published : List TelemetryEvent
  historySize_pos : 1 ≤ historySize
  subscriberQueueSize_pos : 1 ≤ subscriberQueueSize

def pushBounded {α : Type} (size : ℕ) (q : List α) (a : α) : List α :=
  (if q.length < size then q else q.tail) ++ [a]

namespace EventBus

def create (historySize subscriberQueueSize : ℕ) (sessionId : ℕ) (h : 1 ≤ historySize)
    (h' : 1 ≤ subscriberQueueSize) : EventBus where
  historySize := historySize
  subscriberQueueSize := subscriberQueueSize
  sessionId := sessionId
  history := []
  subscribers := []
  nextSubscriber := 0
  latest := Dict.empty
  persistedEvents := []
  published := []
  historySize_pos := h
  subscriberQueueSize_pos := h'

def publish (b : EventBus) (event : TelemetryEvent) : EventBus :=
  -- `uuid4` ids are distinct; the number of events published before stands for one
  let event := { event with sessionId := some b.sessionId, eventId := b.published.length }
  { b with
    persistedEvents := if event.persisted then b.persistedEvents ++ [event] else b.persistedEvents
    latest := if event.type.keepsLatest then b.latest.set event.key event else b.latest
    history := pushBounded b.historySize b.history event
    subscribers := b.subscribers.map (fun q => (q.1, pushBounded b.subscriberQueueSize q.2 event))
    published := event :: b.published }

def recent (b : EventBus) : List TelemetryEvent := b.history

def retainedState (b : EventBus) : List TelemetryEvent := b.latest.values

def forgetDevice (b : EventBus) (deviceId : DeviceId) : EventBus :=
  { b with latest := b.latest.filterKeys (fun k => k.1 ≠ some deviceId) }

def subscribe (b : EventBus) : EventBus × ℕ :=
  ({ b with subscribers := b.subscribers ++ [(b.nextSubscriber, [])]
            nextSubscriber := b.nextSubscriber + 1 }, b.nextSubscriber)

def unsubscribe (b : EventBus) (id : ℕ) : EventBus :=
  { b with subscribers := b.subscribers.filter (fun q => q.1 ≠ id) }

def queue (b : EventBus) (id : ℕ) : List TelemetryEvent := (b.subscribers.lookup id).getD []

def get (b : EventBus) (id : ℕ) : Option (TelemetryEvent × EventBus) :=
  match b.queue id with
  | [] => none
  | e :: q => some (e, { b with subscribers := b.subscribers.map (fun s => if s.1 = id then (id, q) else s) })

end EventBus

end PitbluCore
