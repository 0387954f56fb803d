import SensorLink.Bridge
import SensorLink.Socket.Link

namespace SensorLink

inductive Dial where
  | refused
  | accepted (turns : List Turn)
deriving DecidableEq, Repr

def Dial.turnCount : Dial → Nat
  | .refused => 0
  | .accepted turns => turns.length

def Dial.totalTurns : List Dial → Nat
  | [] => 0
  | dial :: rest => dial.turnCount + totalTurns rest

/-- One frame per request, over a connection that is opened on first use and given up after any
failure, so that no response is taken for another request's. -/
structure SocketTransport where
  devEui : DevEui
  codec : FrameCodec := {}
  /-- Milliseconds to wait for a response; a wait of none at all cannot be set. -/
  readTimeout : Option Nat := none
  stopRequested : Bool := false
  link : Option Link := none
  /-- What further attempts to connect meet; after the last one they are refused. -/
  dials : List Dial
  finished : List Bytes := []
deriving DecidableEq, Repr

namespace SocketTransport

def isConnected (t : SocketTransport) : Bool := t.link.isSome

def requestStop (t : SocketTransport) : SocketTransport := { t with stopRequested := true }

/-- Bytes written to each connection that was accepted, oldest first. -/
def writtenPerLink (t : SocketTransport) : List Bytes :=
  t.finished ++ (t.link.map (·.written)).toList

def connect (t : SocketTransport) : Option Link × SocketTransport :=
  match t.link with
  | some link => (some link, t)
  | none =>
    match t.dials with
    | [] => (none, t)
    | .refused :: rest => (none, { t with dials := rest })
    | .accepted turns :: rest =>
      if t.readTimeout = some 0 then (none, { t with dials := rest, finished := t.finished ++ [[]] })
      else (some { turns }, { t with dials := rest })

def send (t : SocketTransport) (request : Bytes) : SendOutcome × SocketTransport :=
  if t.stopRequested then ({ status := .exitLoop }, t)
  else match t.codec.encodeRequest ⟨t.devEui, request⟩ with
    | .error _ => ({ status := .connectorError }, t)
    | .ok frame =>
      match t.connect with
      | (none, t) => ({ status := .noConnection }, t)
      | (some link, t) =>
        match link.exchange t.codec frame with
        | (.error _, after) =>
          ({ status := .noConnection },
            { t with link := none, finished := t.finished ++ [after.written],
                     stopRequested := link.stopsNext })
        | (.ok response, after) =>
          (if response.isEmpty then { status := .noConnection }
            else { resolutions := [response], status := .ok },
            { t with link := some after, stopRequested := link.stopsNext })

def turnsLeft (t : SocketTransport) : Nat :=
  ((t.link.map fun l => l.turns.length).getD 0) + Dial.totalTurns t.dials

theorem turnsLeft_connect (t : SocketTransport) :
    t.connect.2.turnsLeft ≤ t.turnsLeft ∧
      ∀ link, t.connect.1 = some link →
        link.turns.length + Dial.totalTurns t.connect.2.dials ≤ t.turnsLeft := by
  unfold connect turnsLeft
  split
  · simp_all
  · split
    · simp_all
    · simp_all [Dial.totalTurns, Dial.turnCount]
    · split <;> simp_all [Dial.totalTurns, Dial.turnCount]

theorem turnsLeft_send (t : SocketTransport) (request : Bytes) :
    (t.send request).2.turnsLeft ≤ t.turnsLeft ∧
      ((t.send request).1.answers = true → (t.send request).2.turnsLeft < t.turnsLeft) := by
  unfold send
  split
  · simp [SendOutcome.answers, SendOutcome.result, Except.isOk, Except.toBool]
  · split
    · simp [SendOutcome.answers, SendOutcome.result, Except.isOk, Except.toBool]
    · rename_i frame _
      have hc := t.turnsLeft_connect
      split
      · rename_i t' ht
        simp_all [SendOutcome.answers, SendOutcome.result, Except.isOk, Except.toBool]
      · rename_i link t' ht
        have hle := hc.2 link (by rw [ht])
        rw [ht] at hle
        have hx := Link.turns_exchange_le t'.codec link frame
        split
        · refine ⟨?_, ?_⟩
          · simp only [turnsLeft, Option.map_none, Option.getD_none] at hle ⊢
            omega
          · simp [SendOutcome.answers, SendOutcome.result, Except.isOk, Except.toBool]
        · rename_i response after hok
          have hlt := Link.turns_exchange_lt (c := t'.codec) (l := link)
            (show (link.exchange t'.codec frame).1 = .ok response by rw [hok])
          rw [hok] at hlt
          simp only [turnsLeft, Option.map_some, Option.getD_some] at hle hlt ⊢
          exact ⟨by omega, fun _ => by omega⟩

instance : Transport SocketTransport := ⟨send⟩

instance : FiniteTransport SocketTransport where
  answersLeft := turnsLeft
  answersLeft_send_le t request := (t.turnsLeft_send request).1
  answersLeft_send_lt t request := (t.turnsLeft_send request).2

end SocketTransport

end SensorLink
