import Mathlib.Data.List.Basic

namespace PitbluCore

abbrev Bytes := List UInt8

structure AsgiMessage where
  type : String
  body : Option Bytes
  moreBody : Option Bool
  deriving DecidableEq

namespace AsgiMessage

def disconnects (m : AsgiMessage) : Bool := m.type = "http.disconnect"

def chunk (m : AsgiMessage) : Bytes := m.body.getD []

def more (m : AsgiMessage) : Bool := m.moreBody.getD false

end AsgiMessage

structure Scope where
  type : String
  method : String
  correlationId : Option String

structure Response where
  status : ℕ
  code : String
  message : String
  correlationId : String
  headers : List (String × String)
  deriving DecidableEq

structure Buffered where
  body : Bytes
  delivered : Bool
  transport : List AsgiMessage
  deriving DecidableEq

namespace Buffered

def receive (b : Buffered) : Option (AsgiMessage × Buffered) :=
  if b.delivered then
    match b.transport with
    | [] => none
    | m :: rest => some (m, { b with transport := rest })
  else some (⟨"http.request", some b.body, some false⟩, { b with delivered := true })

def receives : ℕ → Buffered → List AsgiMessage
  | 0, _ => []
  | n + 1, b =>
    match b.receive with
    | none => []
    | some (m, b) => m :: receives n b

end Buffered

inductive IntakeEffect
  | received (m : AsgiMessage)
  | called (receive : Buffered)
  | passed
  | sent (response : Response)
  deriving DecidableEq

/-- What a request finds at its next receive. -/
inductive Arrival
  | message (m : AsgiMessage)
  | timeout

structure RequestBounds where
  maximumBytes : ℕ

namespace RequestBounds

variable (bounds : RequestBounds)

def mutates (method : String) : Bool := ["POST", "PUT", "PATCH", "DELETE"].contains method

/-- `fresh` is the `uuid4` for a request without a correlation id; an empty one counts as missing. -/
def reject (scope : Scope) (fresh : String) (status : ℕ) (code : String) : IntakeEffect :=
  let correlation := (scope.correlationId.filter (· ≠ "")).getD fresh
  .sent ⟨status, code, "request rejected", correlation,
    [("X-Correlation-ID", correlation), ("Cache-Control", "no-store")]⟩

def messages (arrivals : List Arrival) : List AsgiMessage :=
  arrivals.filterMap (fun a => match a with
    | .message m => some m
    | .timeout => none)

def intake (scope : Scope) (fresh : String) : List Bytes → ℕ → List Arrival → List IntakeEffect
  | _, _, [] => []
  | _, _, .timeout :: _ => [reject scope fresh 408 "request_timeout"]
  | chunks, size, .message m :: rest =>
    .received m ::
      (if m.disconnects then []
      else if bounds.maximumBytes < size + m.chunk.length then [reject scope fresh 413 "request_too_large"]
      else if m.more then intake scope fresh (chunks ++ [m.chunk]) (size + m.chunk.length) rest
      else [.called ⟨(chunks ++ [m.chunk]).flatten, false, messages rest⟩])

def call (scope : Scope) (fresh : String) (arrivals : List Arrival) : List IntakeEffect :=
  if scope.type ≠ "http" || !mutates scope.method then [.passed]
  else bounds.intake scope fresh [] 0 arrivals

section Intake

variable (scope : Scope) (fresh : String) {maximum : ℕ}

def payload (ms : List AsgiMessage) : Bytes := (ms.map AsgiMessage.chunk).flatten

theorem intake_append {ms : List AsgiMessage} (hm : ∀ m ∈ ms, m.disconnects = false ∧ m.more = true)
    (chunks : List Bytes) (hs : chunks.flatten.length + (payload ms).length ≤ maximum) (rest : List Arrival) :
    (RequestBounds.mk maximum).intake scope fresh chunks chunks.flatten.length (ms.map .message ++ rest) =
      ms.map .received ++ (RequestBounds.mk maximum).intake scope fresh (chunks ++ ms.map AsgiMessage.chunk)
        (chunks.flatten.length + (payload ms).length) rest := by
  induction ms generalizing chunks with
  | nil => simp [payload]
  | cons m ms ih =>
    obtain ⟨⟨hd, hmore⟩, hrest⟩ := List.forall_mem_cons.mp hm
    have hlen : (payload (m :: ms)).length = m.chunk.length + (payload ms).length := by simp [payload]
    have hflat : (chunks ++ [m.chunk]).flatten.length = chunks.flatten.length + m.chunk.length := by simp
    have hfit : ¬ maximum < chunks.flatten.length + m.chunk.length := by omega
    have hnext := ih hrest (chunks ++ [m.chunk]) (by omega)
    rw [hflat] at hnext
    simp only [List.map_cons, List.cons_append, intake, hd, hmore, hfit, Bool.false_eq_true, ↓reduceIte, hnext, hlen,
      List.append_assoc, List.nil_append]
    rw [Nat.add_assoc]

theorem call_append {scope : Scope} (hscope : scope.type = "http" ∧ mutates scope.method = true)
    {ms : List AsgiMessage} (hm : ∀ m ∈ ms, m.disconnects = false ∧ m.more = true)
    (hs : (payload ms).length ≤ maximum) (rest : List Arrival) :
    (RequestBounds.mk maximum).call scope fresh (ms.map .message ++ rest) =
      ms.map .received ++ (RequestBounds.mk maximum).intake scope fresh (ms.map AsgiMessage.chunk)
      (payload ms).length rest := by
  have h := intake_append scope fresh hm [] (by simpa using hs) rest
  simpa [call, hscope] using h

theorem reject_sent (status : ℕ) (code : String) :
    ∃ response, reject scope fresh status code = .sent response ∧ response.status = status := ⟨_, rfl, rfl⟩

theorem receives_delivered (body : Bytes) (n : ℕ) (transport : List AsgiMessage) :
    Buffered.receives n ⟨body, true, transport⟩ = transport.take n := by
  induction n generalizing transport with
  | zero => simp [Buffered.receives]
  | succ n ih => cases transport <;> simp [Buffered.receives, Buffered.receive, ih]

theorem receives_buffered (body : Bytes) (n : ℕ) (transport : List AsgiMessage) :
    Buffered.receives (n + 1) ⟨body, false, transport⟩ =
      ⟨"http.request", some body, some false⟩ :: transport.take n := by
  simp [Buffered.receives, Buffered.receive, receives_delivered]

theorem request_bounds_exact (hscope : scope.type = "http" ∧ mutates scope.method = true) (ms : List AsgiMessage)
    (hm : ∀ m ∈ ms, m.disconnects = false ∧ m.more = true) (hs : (payload ms).length ≤ maximum) (m : AsgiMessage)
    (rest : List Arrival) :
    (RequestBounds.mk maximum).call scope fresh (ms.map .message) = ms.map .received ∧
    (m.disconnects = true → (RequestBounds.mk maximum).call scope fresh (ms.map .message ++ .message m :: rest) =
      (ms ++ [m]).map .received) ∧
    (m.disconnects = false → maximum < (payload (ms ++ [m])).length → ∃ response, response.status = 413 ∧
      (RequestBounds.mk maximum).call scope fresh (ms.map .message ++ .message m :: rest) =
        (ms ++ [m]).map .received ++ [.sent response]) ∧
    (m.disconnects = false → (payload (ms ++ [m])).length ≤ maximum → m.more = false →
      ∃ buffered : Buffered, (∀ n, buffered.receives (n + 1) =
          ⟨"http.request", some (payload (ms ++ [m])), some false⟩ :: (messages rest).take n) ∧
        (RequestBounds.mk maximum).call scope fresh (ms.map .message ++ .message m :: rest) =
          (ms ++ [m]).map .received ++ [.called buffered]) := by
  have hcall := call_append fresh hscope hm hs
  have hlen : (payload (ms ++ [m])).length = (payload ms).length + m.chunk.length := by simp [payload]
  refine ⟨?_, fun hd => ?_, fun hd hover => ?_, fun hd hfit hlast => ⟨_, fun n => receives_buffered _ n _, ?_⟩⟩
  · simpa [intake] using hcall []
  · simp [hcall, intake, hd]
  · have hover' : maximum < (payload ms).length + m.chunk.length := by omega
    obtain ⟨response, hresponse, hstatus⟩ := reject_sent scope fresh 413 "request_too_large"
    exact ⟨response, hstatus, by simp [hcall, intake, hd, hover', hresponse]⟩
  · have hfit' : ¬ maximum < (payload ms).length + m.chunk.length := by omega
    have hflat : payload (ms ++ [m]) = (ms.map AsgiMessage.chunk ++ [m.chunk]).flatten := by simp [payload]
    simp only [hcall, intake, hd, hfit', hlast, hflat, Bool.false_eq_true, ↓reduceIte, List.map_append, List.map_cons,
      List.map_nil, List.append_assoc, List.cons_append, List.nil_append]

theorem request_bounds_exact_limit : ∃ buffered : Buffered,
    (∀ n, buffered.receives (n + 1) = ⟨"http.request", some [49, 50, 51, 52, 53], some false⟩ ::
      [⟨"http.disconnect", none, none⟩].take n) ∧
    (RequestBounds.mk 5).call ⟨"http", "POST", none⟩ "id"
      [.message ⟨"http.request", some [49, 50], some true⟩, .message ⟨"http.request", some [51, 52, 53], none⟩,
        .message ⟨"http.disconnect", none, none⟩] =
      [.received ⟨"http.request", some [49, 50], some true⟩, .received ⟨"http.request", some [51, 52, 53], none⟩,
        .called buffered] :=
  (request_bounds_exact _ "id" ⟨rfl, by decide⟩ [⟨"http.request", some [49, 50], some true⟩] (by decide) (by decide)
    ⟨"http.request", some [51, 52, 53], none⟩ [.message ⟨"http.disconnect", none, none⟩]).2.2.2 rfl (by decide) rfl

end Intake

end RequestBounds

end PitbluCore
