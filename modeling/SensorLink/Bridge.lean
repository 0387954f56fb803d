import SensorLink.Bytes
import SensorLink.Status

namespace SensorLink

/-- The response slot of the one outstanding request. -/
structure Resolver where
  slot : Option Bytes := none
deriving DecidableEq, Repr

namespace Resolver

def isResolved (r : Resolver) : Bool := r.slot.isSome

/-- The first non-empty response is kept; empty ones before it and all after it are refused. -/
def resolve (r : Resolver) (response : Bytes) : ProtocolStatus × Resolver :=
  if r.isResolved then (.responseWithoutRequest, r)
  else if response.isEmpty then (.internalChannelError, r)
  else (.ok, ⟨some response⟩)

def resolveAll (r : Resolver) : List Bytes → List (ProtocolStatus × Bool) × Resolver
  | [] => ([], r)
  | response :: rest =>
    let (status, r) := r.resolve response
    let (notes, last) := r.resolveAll rest
    ((status, r.isResolved) :: notes, last)

end Resolver

inductive BridgeError where
  | transport (status : TransportStatus)
  /-- Success was reported but no response handed in. -/
  | noResponse
  | exitRequested
deriving DecidableEq, Repr

namespace BridgeError

def message : BridgeError → String
  | .transport status => "transport failed: " ++ status.name
  | .noResponse => "transport returned OK without resolving a response"
  | .exitRequested => "transport requested exit"

def status : BridgeError → TransportStatus
  | .transport status => status
  | .noResponse => .noConnection
  | .exitRequested => .exitLoop

def isExit (e : BridgeError) : Bool := e == .exitRequested

end BridgeError

structure SendOutcome where
  resolutions : List Bytes := []
  status : TransportStatus
deriving DecidableEq, Repr

namespace SendOutcome

def resolver (o : SendOutcome) : Resolver := (Resolver.resolveAll {} o.resolutions).2

def result (o : SendOutcome) : Except BridgeError Bytes :=
  match o.status, o.resolver.slot with
  | .ok, some response => .ok response
  | .ok, none => .error .noResponse
  | .exitLoop, _ => .error .exitRequested
  | status, _ => .error (.transport status)

def answers (o : SendOutcome) : Bool := o.result.isOk

end SendOutcome

class Transport (τ : Type) where
  send : τ → Bytes → SendOutcome × τ

/-- A transport that can answer only a finite number of requests. -/
class FiniteTransport (τ : Type) [Transport τ] where
  answersLeft : τ → Nat
  answersLeft_send_le (t : τ) (request : Bytes) :
    answersLeft (Transport.send t request).2 ≤ answersLeft t
  answersLeft_send_lt (t : τ) (request : Bytes) : (Transport.send t request).1.answers = true →
    answersLeft (Transport.send t request).2 < answersLeft t

/-- A transport with the number of requests handed to it. -/
structure Bridge (τ : Type) where
  transport : τ
  exchanges : Nat := 0

namespace Bridge

variable {τ : Type} [Transport τ]

def request (b : Bridge τ) (bytes : Bytes) : Except BridgeError Bytes × Bridge τ :=
  let (outcome, transport) := Transport.send b.transport bytes
  (outcome.result, { transport, exchanges := b.exchanges + 1 })

variable [FiniteTransport τ]

def answersLeft (b : Bridge τ) : Nat := FiniteTransport.answersLeft b.transport

theorem answersLeft_request_le (b : Bridge τ) (bytes : Bytes) :
    (b.request bytes).2.answersLeft ≤ b.answersLeft :=
  FiniteTransport.answersLeft_send_le b.transport bytes

theorem answersLeft_request_lt {b : Bridge τ} {bytes response : Bytes}
    (h : (b.request bytes).1 = .ok response) :
    (b.request bytes).2.answersLeft < b.answersLeft := by
  apply FiniteTransport.answersLeft_send_lt
  simp only [request] at h
  simp [SendOutcome.answers, h, Except.isOk, Except.toBool]

end Bridge

end SensorLink
