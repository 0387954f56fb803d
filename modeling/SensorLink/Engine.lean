import SensorLink.Bridge
import SensorLink.Command

namespace SensorLink

inductive StateChange where
  | unchanged
  | updated (state : Bytes)
  | cleared
deriving DecidableEq, Repr

/-- The state to persist, if there is a change; a cleared state is the empty one. -/
def StateChange.state? : StateChange → Option Bytes
  | .unchanged => none
  | .updated state => some state
  | .cleared => some []

structure CommandOutcome where
  change : StateChange
  /-- A request that confirms the command, sent before the next poll. -/
  confirmation : Option Bytes
deriving DecidableEq, Repr

inductive EngineError where
  | bridge (e : BridgeError)
  | command (e : CommandError)
  | failed (reason : String)
deriving DecidableEq, Repr

namespace EngineError

def message : EngineError → String
  | .bridge e => e.message
  | .command e => e.message
  | .failed reason => "engine failure: " ++ reason

def isExit : EngineError → Bool
  | .bridge e => e.isExit
  | _ => false

end EngineError

/-- A computation that asks the bridge a number of questions on its way; each waits for its result.
-/
inductive Dialogue (α : Type) where
  | done (result : α)
  | ask (request : Bytes) (next : Except BridgeError Bytes → Dialogue α)

namespace Dialogue

variable {α γ τ : Type}

def map (f : α → γ) : Dialogue α → Dialogue γ
  | .done result => .done (f result)
  | .ask request next => .ask request fun answer => (next answer).map f

variable [Transport τ]

def run : Dialogue α → Bridge τ → α × Bridge τ
  | .done result, b => (result, b)
  | .ask request next, b =>
    let (answer, b) := b.request request
    (next answer).run b

theorem answersLeft_run_le [FiniteTransport τ] (d : Dialogue α) (b : Bridge τ) :
    (d.run b).2.answersLeft ≤ b.answersLeft := by
  induction d generalizing b with
  | done result => exact Nat.le_refl _
  | ask request next ih => exact Nat.le_trans (ih _ _) (b.answersLeft_request_le request)

end Dialogue

class Engine (ε : Type) where
  restore : ε → Bytes → Except EngineError Unit × ε
  /-- Enrolls the device; the result is the state to persist. -/
  enroll : ε → Dialogue (Except EngineError Bytes × ε)
  pollRequest : ε → Except EngineError Bytes × ε
  decodeCommand : ε → Bytes → Except EngineError (Command × Bytes) × ε
  /-- Executes a command other than `noCommand` and `clearClientState`. -/
  execute : ε → Command → Bytes → Dialogue (Except EngineError CommandOutcome × ε)
  sendMessage : ε → Bytes → Dialogue (Except EngineError StateChange × ε)
  reset : ε → ε

/-- Decoding for engines that add nothing to the wire form of commands. -/
def Engine.decodePlain (response : Bytes) : Except EngineError (Command × Bytes) :=
  (Command.decode response).mapError .command

end SensorLink
