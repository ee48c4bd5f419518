import PitbluCore.OptimisticUpdates

namespace PitbluCore

open Library ConfigurationManager

section Redact

/-- Only what validation finds wrong with a value is left of it. -/
def redactSecret (value : String) : String :=
  match secretFault value with
  | none => "*"
  | some .tooShort => ""
  | some .tooLong => "".pushn '*' 4097

def AdministrativeStore.redact (S : AdministrativeStore) : AdministrativeStore :=
  { S with secrets := S.secrets.mapValues (fun e => ("*", e.2)) }

def ControlCall.redact : ControlCall → ControlCall
  | .putSecret value => .putSecret (redactSecret value)
  | call => call

def ApiRequest.redact (request : ApiRequest) : ApiRequest := { request with call := request.call.redact }

def Exchange.redact (e : Exchange) : Exchange := { e with request := e.request.redact }

def ControlAction.redact : ControlAction → ControlAction
  | .arrive request clock => .arrive request.redact clock
  | a => a

def ControlPlane.redact (s : ControlPlane) : ControlPlane :=
  { s with
    store := s.store.redact
    exchanges := s.exchanges.mapValues Exchange.redact }

end Redact

variable {P : Pydantic} {digest : String → List UInt8 → List UInt8}

section Handlers

theorem redactSecret_congr {value value' : String} (h : secretFault value = secretFault value') :
    redactSecret value = redactSecret value' := by
  unfold redactSecret
  rw [h]

end Handlers

namespace ControlPlane

variable {s s' : ControlPlane}

section Steps

end Steps

/-- The same action, or the same request for a secret of which validation says the same. -/
inductive Alike : ControlAction → ControlAction → Prop
  | same (a : ControlAction) : Alike a a
  | putSecret (method authorization : String) (clock : ℚ) {value value' : String}
      (h : secretFault value = secretFault value') :
      Alike (.arrive ⟨method, authorization, .putSecret value⟩ clock)
        (.arrive ⟨method, authorization, .putSecret value'⟩ clock)

theorem Alike.redact {a a' : ControlAction} (h : Alike a a') : a.redact = a'.redact := by
  cases h with
  | same => rfl
  | putSecret method authorization clock h =>
    simp only [ControlAction.redact, ApiRequest.redact, ControlCall.redact, redactSecret_congr h]

end ControlPlane

end PitbluCore
