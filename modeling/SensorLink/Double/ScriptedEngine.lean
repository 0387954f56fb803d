import SensorLink.Engine
import SensorLink.Text.Hex

namespace SensorLink

inductive EngineCall where
  | restore (state : Bytes)
  | enroll
  | poll
  | decode (response : Bytes)
  | execute (command : Command) (args : Bytes)
  | send (payload : Bytes)
  | reset
deriving DecidableEq, Repr

def EngineCall.line : EngineCall → String
  | .restore state => "restore " ++ Text.hexOfBytes state
  | .enroll => "enroll"
  | .poll => "poll"
  | .decode response => "decode " ++ Text.hexOfBytes response
  | .execute command args => "execute " ++ command.name ++ " " ++ Text.hexOfBytes args
  | .send payload => "send " ++ Text.hexOfBytes payload
  | .reset => "reset"

/-- What one call does: requests first, then a fault if there is one, then the result. -/
structure EngineAction (ρ : Type) where
  requests : List Bytes := []
  ignoreErrors : Bool := false
  fault : Option EngineError := none
  result : ρ

inductive EnrolledState where
  | fixed (state : Bytes)
  /-- The last response, or nothing. -/
  | lastResponse
deriving DecidableEq, Repr

/-- An engine that does as it is told; a missing action is the method's default. -/
structure ScriptedEngine where
  restores : List (EngineAction Unit) := []
  enrolls : List (EngineAction EnrolledState) := []
  polls : List (EngineAction Bytes) := []
  /-- `none` decodes the response by its wire form. -/
  decodes : List (EngineAction (Option (UInt8 × Bytes))) := []
  executes : List (EngineAction CommandOutcome) := []
  /-- `none` sends the payload. -/
  sends : List (Option (EngineAction StateChange)) := []
  calls : List EngineCall := []

namespace ScriptedEngine

/-- Sends requests in turn; the result is the last response. -/
def converse (ignoreErrors : Bool) (last : Bytes) : List Bytes →
    Dialogue (Except BridgeError Bytes)
  | [] => .done (.ok last)
  | request :: rest => .ask request fun
    | .ok response => converse ignoreErrors response rest
    | .error e => if ignoreErrors then converse ignoreErrors last rest else .done (.error e)

def settle {ρ : Type} (a : EngineAction ρ) (answer : Except BridgeError Bytes) :
    Except EngineError (ρ × Bytes) :=
  match answer, a.fault with
  | .error e, _ => .error (.bridge e)
  | .ok _, some fault => .error fault
  | .ok last, none => .ok (a.result, last)

def perform {ρ : Type} (a : EngineAction ρ) : Dialogue (Except EngineError (ρ × Bytes)) :=
  (converse a.ignoreErrors [] a.requests).map (settle a)

def conclude {ρ : Type} (a : EngineAction ρ) : Except EngineError ρ :=
  match a.fault with
  | some fault => .error fault
  | none => .ok a.result

def note (e : ScriptedEngine) (call : EngineCall) : ScriptedEngine :=
  { e with calls := e.calls ++ [call] }

def enrolledState : EnrolledState × Bytes → Bytes
  | (.fixed state, _) => state
  | (.lastResponse, last) => last

def decodeTold (response : Bytes) : Option (UInt8 × Bytes) → Except EngineError (Command × Bytes)
  | none => Engine.decodePlain response
  | some (id, args) => ((Command.ofId id).map (·, args)).mapError .command

def defaultState : EnrolledState := .fixed (utf8 "S0")

def defaultPoll : Bytes := utf8 "poll"

instance : Engine ScriptedEngine where
  restore e state :=
    let action := e.restores.head?.getD { result := () }
    (conclude action, { e.note (.restore state) with restores := e.restores.tail })
  enroll e :=
    let action := e.enrolls.head?.getD { result := defaultState }
    let e := { e.note .enroll with enrolls := e.enrolls.tail }
    (perform action).map fun r => (r.map enrolledState, e)
  pollRequest e :=
    let action := e.polls.head?.getD { result := defaultPoll }
    (conclude action, { e.note .poll with polls := e.polls.tail })
  decodeCommand e response :=
    let action := e.decodes.head?.getD { result := none }
    (conclude action >>= decodeTold response,
      { e.note (.decode response) with decodes := e.decodes.tail })
  execute e command args :=
    let action := e.executes.head?.getD { result := ⟨.unchanged, none⟩ }
    let e := { e.note (.execute command args) with executes := e.executes.tail }
    (perform action).map fun r => (r.map (·.1), e)
  sendMessage e payload :=
    let action := e.sends.head?.join.getD { requests := [payload], result := .unchanged }
    let e := { e.note (.send payload) with sends := e.sends.tail }
    (perform action).map fun r => (r.map (·.1), e)
  reset e := e.note .reset

end ScriptedEngine

end SensorLink
