import SensorLink.Bridge

namespace SensorLink

/-- A request, and how the resolver answered each response with its state after it. -/
structure SendNote where
  request : Bytes
  resolutions : List (ProtocolStatus × Bool)
deriving DecidableEq, Repr

structure PlannedTransport where
  outcomes : List SendOutcome
  notes : List SendNote := []
deriving DecidableEq, Repr

namespace PlannedTransport

/-- After the last planned send the transport asks to stop. -/
def send (t : PlannedTransport) (request : Bytes) : SendOutcome × PlannedTransport :=
  let (outcome, outcomes) : SendOutcome × List SendOutcome := match t.outcomes with
    | [] => ({ status := .exitLoop }, [])
    | outcome :: rest => (outcome, rest)
  let note := ⟨request, (Resolver.resolveAll {} outcome.resolutions).1⟩
  (outcome, { outcomes, notes := t.notes ++ [note] })

instance : Transport PlannedTransport := ⟨send⟩

instance : FiniteTransport PlannedTransport where
  answersLeft t := t.outcomes.length
  answersLeft_send_le t request := by
    simp only [Transport.send, send]
    cases h : t.outcomes <;> simp
  answersLeft_send_lt t request := by
    simp only [Transport.send, send]
    cases h : t.outcomes <;>
      simp_all [SendOutcome.answers, SendOutcome.result, Except.isOk, Except.toBool]

end PlannedTransport

end SensorLink
