import SensorLink.Bridge

namespace SensorLink

inductive ScriptedReply where
  | respond (response : Bytes)
  | fail (status : TransportStatus)
  /-- Success without a response. -/
  | silent
deriving DecidableEq, Repr

def ScriptedReply.outcome : ScriptedReply → SendOutcome
  | .respond response => { resolutions := [response], status := .ok }
  | .fail status => { status }
  | .silent => { status := .ok }

/-- A transport that asks to stop once its script is used up. -/
structure ScriptedTransport where
  replies : List ScriptedReply
  sent : List Bytes := []
  resolved : List ProtocolStatus := []
deriving DecidableEq, Repr

namespace ScriptedTransport

def push (t : ScriptedTransport) (reply : ScriptedReply) : ScriptedTransport :=
  { t with replies := t.replies ++ [reply] }

def send (t : ScriptedTransport) (request : Bytes) : SendOutcome × ScriptedTransport :=
  match t.replies with
  | [] => ({ status := .exitLoop }, { t with sent := t.sent ++ [request] })
  | reply :: rest =>
    let statuses := (Resolver.resolveAll {} reply.outcome.resolutions).1.map (·.1)
    (reply.outcome,
      { replies := rest, sent := t.sent ++ [request], resolved := t.resolved ++ statuses })

instance : Transport ScriptedTransport := ⟨send⟩

instance : FiniteTransport ScriptedTransport where
  answersLeft t := t.replies.length
  answersLeft_send_le t request := by
    simp only [Transport.send, send]
    split <;> simp_all
  answersLeft_send_lt t request := by
    simp only [Transport.send, send]
    split <;> simp_all [SendOutcome.answers, SendOutcome.result, Except.isOk, Except.toBool]

end ScriptedTransport

end SensorLink
