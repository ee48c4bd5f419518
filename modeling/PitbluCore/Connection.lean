import PitbluCore.Models

namespace PitbluCore

inductive DesiredState
  | connected
  | disconnected
  deriving DecidableEq

inductive ConnectionState
  | discovered
  | connecting
  | initialising
  | connected
  | polling
  | degraded
  | backoff
  | disconnected
  | unsupported
  deriving DecidableEq

def ConnectionState.value : ConnectionState → String
  | .discovered => "discovered"
  | .connecting => "connecting"
  | .initialising => "initialising"
  | .connected => "connected"
  | .polling => "polling"
  | .degraded => "degraded"
  | .backoff => "backoff"
  | .disconnected => "disconnected"
  | .unsupported => "unsupported"

def allowed : ConnectionState → List ConnectionState
  | .discovered => [.connecting, .disconnected, .unsupported]
  | .connecting => [.initialising, .backoff, .disconnected]
  | .initialising => [.connected, .backoff, .disconnected, .unsupported]
  | .connected => [.polling, .degraded, .backoff, .disconnected]
  | .polling => [.degraded, .backoff, .disconnected]
  | .degraded => [.polling, .backoff, .disconnected]
  | .backoff => [.connecting, .disconnected]
  | .disconnected => [.discovered, .connecting, .unsupported]
  | .unsupported => [.disconnected]

/-- The delays of the default schedule in seconds; the jitter factor is not modelled. -/
def backoffDelays : List ℕ := [2, 4, 8, 15, 30, 60]

structure BackoffPolicy where
  attempt : ℕ
  deriving DecidableEq

namespace BackoffPolicy

def create : BackoffPolicy := ⟨0⟩

def baseDelay (b : BackoffPolicy) : ℕ :=
  backoffDelays.getD (min b.attempt (backoffDelays.length - 1)) 0

def nextDelay (b : BackoffPolicy) : ℕ × BackoffPolicy := (b.baseDelay, ⟨b.attempt + 1⟩)

def reset (_ : BackoffPolicy) : BackoffPolicy := ⟨0⟩

end BackoffPolicy

structure ConnectionStateMachine where
  desired : DesiredState
  observed : ConnectionState
  deriving DecidableEq

namespace ConnectionStateMachine

def create : ConnectionStateMachine := ⟨.disconnected, .disconnected⟩

def transition (m : ConnectionStateMachine) (new : ConnectionState) : Option ConnectionStateMachine :=
  if new = m.observed then some m
  else if new ∈ allowed m.observed then some { m with observed := new }
  else none

def discovered (m : ConnectionStateMachine) (supported : Bool) : Option ConnectionStateMachine :=
  m.transition (if supported then .discovered else .unsupported)

def requestConnect (m : ConnectionStateMachine) (force : Bool) : Option ConnectionStateMachine :=
  let m := { m with desired := .connected }
  if m.observed = .backoff && force then m.transition .connecting
  else if m.observed = .discovered || m.observed = .disconnected then m.transition .connecting
  else some m

def initialising (force : Bool) : Option ConnectionStateMachine := do
  let m ← create.discovered true
  let m ← m.requestConnect force
  m.transition .initialising

def connected (force : Bool) : Option ConnectionStateMachine := do
  let m ← initialising force
  let m ← m.transition .connected
  m.transition .polling

theorem connected_eq (force : Bool) : connected force = some ⟨.connected, .polling⟩ := by
  cases force <;> rfl

end ConnectionStateMachine

end PitbluCore
