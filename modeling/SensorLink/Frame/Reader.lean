import SensorLink.Frame

namespace SensorLink

inductive ReadEvent where
  | data (bytes : Bytes)
  | fault (e : IoError)
deriving DecidableEq, Repr

structure Reader where
  events : List ReadEvent := []
  /-- The fault of every read after the last event; without one the source has ended. -/
  dry : Option IoError := none
deriving DecidableEq, Repr

namespace Reader

/-- Bytes not read yet. -/
def unread (r : Reader) : Bytes :=
  r.events.flatMap fun
    | .data bytes => bytes
    | .fault _ => []

/-- Reads exactly `n` bytes. An interrupted read is tried again; any other fault is consumed and
ends the call, and the bytes read before it are lost. -/
def takeExact (dry : Option IoError) : Nat → List ReadEvent →
    Except IoError Bytes × List ReadEvent
  | 0, events => (.ok [], events)
  | _ + 1, [] => (.error (dry.getD .unexpectedEnd), [])
  | n + 1, .fault e :: rest =>
    if e = .interrupted then takeExact dry (n + 1) rest else (.error e, rest)
  | n + 1, .data bytes :: rest =>
    match bytes.drop (n + 1) with
    | [] =>
      let (result, events) := takeExact dry (n + 1 - bytes.length) rest
      (result.map (bytes ++ ·), events)
    | more => (.ok (bytes.take (n + 1)), .data more :: rest)

def readExact (r : Reader) (n : Nat) : Except IoError Bytes × Reader :=
  let (result, events) := takeExact r.dry n r.events
  (result, { r with events })

end Reader

namespace FrameCodec

/-- Reads one response frame; nothing behind it is touched. -/
def readResponse (c : FrameCodec) (r : Reader) : Except FrameError Bytes × Reader :=
  match r.readExact lengthWidth with
  | (.error e, r) => (.error (.io e), r)
  | (.ok field, r) =>
    match c.checkLength (ofLeBytes field) with
    | .error e => (.error e, r)
    | .ok () =>
      let (result, r) := r.readExact (ofLeBytes field)
      (result.mapError .io, r)

def readResponses (c : FrameCodec) : Nat → Reader → List (Except FrameError Bytes) × Reader
  | 0, r => ([], r)
  | n + 1, r =>
    let (result, r) := c.readResponse r
    let (results, r) := c.readResponses n r
    (result :: results, r)

end FrameCodec

end SensorLink
