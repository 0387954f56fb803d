import SensorLink.Socket

namespace SensorLink

inductive ProxyStep where
  /-- A response frame; the stop signal may be given before it. -/
  | reply (payload : Bytes) (stops : Bool)
  | raw (bytes : Bytes)
  | hangup
  /-- Nothing until the sensor gives up. -/
  | stall
deriving DecidableEq, Repr

namespace ProxyStep

def responseFrame (payload : Bytes) : Bytes :=
  leBytes FrameCodec.lengthWidth payload.length ++ payload

def turns : List ProxyStep → List Turn
  | [] => []
  | step :: rest =>
    let dry := if rest.isEmpty then none else some .timedOut
    match step with
    | .reply payload stops => { arrivals := [.data (responseFrame payload)], dry, stops } :: turns rest
    | .raw bytes => { arrivals := [.data bytes], dry } :: turns rest
    | .hangup => [{ dry := none }]
    | .stall => [{ dry := some .timedOut }]

def dials (connections : List (List ProxyStep)) : List Dial :=
  connections.map fun steps => .accepted (turns steps)

end ProxyStep

def SocketTransport.received (t : SocketTransport) : List (List Request) :=
  t.writtenPerLink.map (FrameCodec.splitRequests { maxPayload := wordCount 4 })

end SensorLink
