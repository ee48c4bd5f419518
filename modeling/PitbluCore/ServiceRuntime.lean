import PitbluCore.Library.Fairness
import PitbluCore.ServiceMoves

namespace PitbluCore

open Library

inductive CPython
  | v311
  | v312
  | v313
  deriving DecidableEq

/-- A cancellation that meets the completed call inside `asyncio.wait_for` is lost: `wait_for` returns the result. -/
def CPython.losesCancellation : CPython → Bool
  | .v311 => true
  | .v312 | .v313 => false

inductive RuntimeAction
  | service (action : Service.Action)
  | loseCancellation (task : TaskId)

namespace Service

variable {python : CPython} {s s' : Service} {a : RuntimeAction} {t : TaskId}

/-- The task awaits a call of the adapter, which goes on as if nothing had cancelled it. -/
def loseCancellation (s : Service) (t : TaskId) : Option Service :=
  match s.tasks.get? t with
  | some task =>
    if task.cancelled && task.frame.holdsLock then some { s with tasks := s.tasks.set t ⟨task.frame, false⟩ } else none
  | none => none

def stepOn (python : CPython) (s : Service) : RuntimeAction → Option Service
  | .service a => s.step a
  | .loseCancellation t => if python.losesCancellation then s.loseCancellation t else none

def runs (t : TaskId) (a : RuntimeAction) : Prop := ∃ outcome now clock, a = .service (.resume t outcome now clock)

theorem step_of_stepOn (hp : python.losesCancellation = false) (h : stepOn python s a = some s') :
    ∃ b, a = .service b ∧ s.step b = some s' := by
  cases a with
  | service b => exact ⟨b, rfl, h⟩
  | loseCancellation t =>
    unfold stepOn at h
    rw [hp] at h
    cases h

def serviceRun (e : Execution (stepOn python)) (hp : python.losesCancellation = false) : Execution step where
  state := e.state
  action n :=
    match e.action n with
    | .service b => b
    | .loseCancellation _ => .linkLost
  next n := by
    obtain ⟨b, ha, hs⟩ := step_of_stepOn hp (e.next n)
    rw [ha]
    exact hs

theorem action_serviceRun {e : Execution (stepOn python)} (hp : python.losesCancellation = false) (n : ℕ) :
    e.action n = .service ((serviceRun e hp).action n) := by
  obtain ⟨b, ha, -⟩ := step_of_stepOn hp (e.next n)
  change e.action n = .service (match e.action n with
    | .service b => b
    | .loseCancellation _ => .linkLost)
  rw [ha]

theorem reachable_of_stepOn (hp : python.losesCancellation = false) {init : Service → Prop}
    (h : Reachable init (stepOn python) s) : Reachable init step s := by
  induction h with
  | init h => exact .init h
  | step _ _ hs ih =>
    obtain ⟨b, -, hs'⟩ := step_of_stepOn hp hs
    exact .step ih trivial hs'

def onPython (python : CPython) (e : Execution step) : Execution (stepOn python) where
  state := e.state
  action n := .service (e.action n)
  next := e.next

end Service

end PitbluCore
