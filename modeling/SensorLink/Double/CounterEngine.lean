import SensorLink.Engine

namespace SensorLink

/-- An engine whose state is a 64-bit counter, least significant byte first, that every state change
moves on by one. It enrolls with the bridge's answer as its state and confirms each command. -/
structure CounterEngine where
  state : Option Bytes := none
  executed : List Command := []
  messages : List Bytes := []
  failing : List Command := []
deriving DecidableEq, Repr

namespace CounterEngine

/-- The counter that a state stands for; a state of another width counts as zero. -/
def counter (state : Option Bytes) : Nat :=
  match state with
  | some bs => if bs.length = 8 then ofLeBytes bs else 0
  | none => 0

def nextState (e : CounterEngine) : Bytes := leBytes 8 (counter e.state + 1)

def enrollRequest : Bytes := utf8 "enroll"

def poll : Bytes := utf8 "poll"

def confirmation (c : Command) : Bytes := utf8 "confirm" ++ [c.id]

def executeCommand (e : CounterEngine) (c : Command) :
    Except EngineError CommandOutcome × CounterEngine :=
  if c ∈ e.failing then (.error (.failed (c.name ++ " refused")), e)
  else
    (.ok ⟨.updated e.nextState, some (confirmation c)⟩,
      { e with executed := e.executed ++ [c], state := some e.nextState })

instance : Engine CounterEngine where
  restore e state := (.ok (), { e with state := some state })
  enroll e := .ask enrollRequest fun
    | .error err => .done (.error (.bridge err), e)
    | .ok response => .done (.ok response, { e with state := some response })
  pollRequest e := (.ok poll, e)
  decodeCommand e response := (Engine.decodePlain response, e)
  execute e c _ := .done (e.executeCommand c)
  sendMessage e payload := .ask payload fun
    | .error err => .done (.error (.bridge err), e)
    | .ok _ => .done (.ok (.updated e.nextState),
        { e with messages := e.messages ++ [payload], state := some e.nextState })
  reset e := { e with state := none }

end CounterEngine

end SensorLink
