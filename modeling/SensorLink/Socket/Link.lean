import SensorLink.Frame.Reader

namespace SensorLink

/-- What follows from one write to the peer. -/
structure Turn where
  /-- How many bytes the write passes on before it fails; `none` if it succeeds. -/
  cut : Option Nat := none
  arrivals : List ReadEvent := []
  /-- The fault of a read that finds nothing more; without one the peer has closed. -/
  dry : Option IoError := some .timedOut
  stops : Bool := false
deriving DecidableEq, Repr

structure Link where
  turns : List Turn
  incoming : Reader := { dry := some .timedOut }
  written : Bytes := []
deriving DecidableEq, Repr

namespace Link

/-- Writes a frame. A peer with no turn left has closed the connection. -/
def write (l : Link) (frame : Bytes) : Except IoError Unit × Link :=
  match l.turns with
  | [] => (.error .brokenPipe, l)
  | turn :: rest =>
    match turn.cut with
    | some n => (.error .brokenPipe, { l with turns := rest, written := l.written ++ frame.take n })
    | none =>
      (.ok (), { turns := rest, written := l.written ++ frame,
                 incoming := ⟨l.incoming.events ++ turn.arrivals, turn.dry⟩ })

def stopsNext (l : Link) : Bool := l.turns.head?.any (·.stops)

def exchange (c : FrameCodec) (l : Link) (frame : Bytes) : Except FrameError Bytes × Link :=
  match l.write frame with
  | (.error e, l) => (.error (.io e), l)
  | (.ok (), l) =>
    let (result, incoming) := c.readResponse l.incoming
    (result, { l with incoming })

theorem turns_exchange_le (c : FrameCodec) (l : Link) (frame : Bytes) :
    (l.exchange c frame).2.turns.length ≤ l.turns.length := by
  unfold exchange write
  cases h : l.turns with
  | nil => simp [h]
  | cons turn rest => cases hc : turn.cut <;> simp [hc]

theorem turns_exchange_lt {c : FrameCodec} {l : Link} {frame response : Bytes}
    (h : (l.exchange c frame).1 = .ok response) :
    (l.exchange c frame).2.turns.length < l.turns.length := by
  unfold exchange write at h ⊢
  cases ht : l.turns with
  | nil => simp [ht] at h
  | cons turn rest => cases hc : turn.cut <;> simp [hc]

end Link

end SensorLink
