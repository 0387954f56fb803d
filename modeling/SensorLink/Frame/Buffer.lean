import SensorLink.Frame

namespace SensorLink

inductive BufferStep where
  | feed (bytes : Bytes)
  | takeRequest
  | takeResponse
deriving DecidableEq, Repr

inductive BufferResult where
  | fed
  | waiting
  | request (r : Request)
  | response (payload : Bytes)
  | failed (e : FrameError)
deriving DecidableEq, Repr

namespace FrameCodec

/-- One step; a step that yields no frame leaves the buffer as it was. -/
def bufferStep (c : FrameCodec) (buffer : Bytes) : BufferStep → BufferResult × Bytes
  | .feed bytes => (.fed, buffer ++ bytes)
  | .takeRequest =>
    match c.splitRequest buffer with
    | .error e => (.failed e, buffer)
    | .ok none => (.waiting, buffer)
    | .ok (some (r, rest)) => (.request r, rest)
  | .takeResponse =>
    match c.splitResponse buffer with
    | .error e => (.failed e, buffer)
    | .ok none => (.waiting, buffer)
    | .ok (some (payload, rest)) => (.response payload, rest)

def bufferSteps (c : FrameCodec) (buffer : Bytes) : List BufferStep → List (BufferResult × Bytes)
  | [] => []
  | step :: rest =>
    let next := c.bufferStep buffer step
    next :: c.bufferSteps next.2 rest

end FrameCodec

end SensorLink
