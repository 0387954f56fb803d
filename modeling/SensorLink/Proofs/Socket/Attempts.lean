import SensorLink.Socket
import SensorLink.Proofs.Frame.Read

namespace SensorLink

def Turn.arrived (turn : Turn) : Bytes := turn.arrivals.flatMap ReadEvent.bytes

namespace Link

variable {c : FrameCodec} {l after : Link} {frame response : Bytes} {e : FrameError}

/-- The bytes still to be read from a connection, those of further turns included. -/
def upcoming (l : Link) : Bytes := l.incoming.unread ++ l.turns.flatMap Turn.arrived

theorem write_ok (h : l.write frame = (.ok (), after)) :
    after.written = l.written ++ frame ∧ after.upcoming = l.upcoming := by
  unfold write at h
  split at h
  · cases h
  · rename_i turn rest hturns
    split at h
    · cases h
    · cases h
      refine ⟨rfl, ?_⟩
      simp only [upcoming, Reader.unread_eq, hturns, List.flatMap_append, List.flatMap_cons,
        List.append_assoc, Turn.arrived]

theorem write_error {fault : IoError} (h : l.write frame = (.error fault, after)) :
    ∃ sent, sent <+: frame ∧ after.written = l.written ++ sent := by
  unfold write at h
  split at h
  · cases h
    exact ⟨[], List.nil_prefix, (List.append_nil _).symm⟩
  · rename_i turn rest hturns
    split at h
    · rename_i n hcut
      cases h
      exact ⟨frame.take n, List.take_prefix n frame, rfl⟩
    · cases h

theorem exchange_ok (h : l.exchange c frame = (.ok response, after)) :
    c.Fits response ∧ after.written = l.written ++ frame ∧
      l.upcoming = FrameCodec.responseFrame response ++ after.upcoming := by
  unfold exchange at h
  rcases hwrite : l.write frame with ⟨fault | _, l₁⟩
  · simp only [hwrite] at h
    cases h
  · obtain ⟨hwritten, hupcoming⟩ := write_ok hwrite
    rcases hread : c.readResponse l₁.incoming with ⟨result, incoming⟩
    simp only [hwrite, hread] at h
    cases h
    obtain ⟨hfits, hunread⟩ := FrameCodec.readResponse_ok hread
    refine ⟨hfits, hwritten, ?_⟩
    rw [← hupcoming, upcoming, hunread, List.append_assoc]
    rfl

/-- The next write goes out whole, and the frame of a response stands at the front of what is read
behind it, before any fault. -/
def Delivers (l : Link) (response : Bytes) : Prop :=
  ∃ turn turns events later more, l.turns = turn :: turns ∧ turn.cut = none ∧
    l.incoming.events ++ turn.arrivals = events ++ later ∧ (∀ event ∈ events, event.Calm) ∧
    events.flatMap ReadEvent.bytes = FrameCodec.responseFrame response ++ more

theorem exchange_of_delivers (h : l.Delivers response) (hfits : c.Fits response) (frame : Bytes) :
    (l.exchange c frame).1 = .ok response := by
  obtain ⟨turn, turns, events, later, more, hturns, hcut, hevents, hcalm, hframe⟩ := h
  have hread := FrameCodec.readResponse_of_calm
    (r := ⟨l.incoming.events ++ turn.arrivals, turn.dry⟩) hevents hcalm hfits hframe
  simp only [exchange, write, hturns, hcut]
  exact hread

theorem exchange_error (h : l.exchange c frame = (.error e, after)) :
    ∃ sent, sent <+: frame ∧ after.written = l.written ++ sent := by
  unfold exchange at h
  rcases hwrite : l.write frame with ⟨fault | _, l₁⟩
  · simp only [hwrite] at h
    cases h
    exact write_error hwrite
  · simp only [hwrite, Prod.mk.injEq] at h
    obtain ⟨-, rfl⟩ := h
    exact ⟨frame, List.prefix_refl frame, (write_ok hwrite).1⟩

end Link

namespace Dial

/-- Everything that the peer sends over a connection that it accepts. -/
def stream? : Dial → Option Bytes
  | refused => none
  | accepted turns => some (turns.flatMap Turn.arrived)

end Dial

namespace SocketTransport

/-- What becomes of a request that is handed to a transport. -/
inductive Fate where
  | stopped
  | refused
  | unreached
  | lost (sent : Bytes)
  | answered (sent response : Bytes)
deriving DecidableEq, Repr

namespace Fate

/-- What the bridge is told. -/
def outcome : Fate → SendOutcome
  | stopped => { status := .exitLoop }
  | refused => { status := .connectorError }
  | unreached => { status := .noConnection }
  | lost _ => { status := .noConnection }
  | answered _ response =>
    if response.isEmpty then { status := .noConnection }
    else { resolutions := [response], status := .ok }

def sent : Fate → Bytes
  | lost sent => sent
  | answered sent _ => sent
  | _ => []

def response? : Fate → Option Bytes
  | answered _ response => some response
  | _ => none

/-- Whether a connection was asked for. -/
def isTried : Fate → Bool
  | stopped => false
  | refused => false
  | _ => true

def isCarried : Fate → Bool
  | lost _ => true
  | answered _ _ => true
  | _ => false

theorem response?_eq_some {f : Fate} {response : Bytes} :
    f.response? = some response ↔ ∃ sent, f = answered sent response := by
  cases f <;> simp [response?]

end Fate

def fate (t : SocketTransport) (request : Bytes) : Fate :=
  if t.stopRequested then .stopped
  else match t.codec.encodeRequest ⟨t.devEui, request⟩ with
    | .error _ => .refused
    | .ok frame =>
      match t.connect.1 with
      | none => .unreached
      | some link =>
        let (result, after) := link.exchange t.codec frame
        let sent := after.written.drop link.written.length
        match result with
        | .error _ => .lost sent
        | .ok response => .answered sent response

def writing (t : SocketTransport) : Bytes := (t.link.map (·.written)).getD []

/-- What is still to be read from each connection that is open or to come. -/
def reading (t : SocketTransport) : List Bytes :=
  (t.link.map Link.upcoming).toList ++ t.dials.filterMap Dial.stream?

inductive Sends (t : SocketTransport) (request : Bytes) : Fate → SocketTransport → Prop where
  | stopped (h : t.stopRequested = true) : Sends t request .stopped t
  | refused (h : t.codec.maxPayload < request.length) : Sends t request .refused t
  | unreached {t' : SocketTransport} (h : request.length ≤ t.codec.maxPayload)
      (hlink : t.link = none) (hlink' : t'.link = none)
      (hover : t'.finished = t.finished ∧ t'.reading = t.reading ∨
        ∃ stream, t'.finished = t.finished ++ [[]] ∧ t.reading = stream :: t'.reading) :
      Sends t request .unreached t'
  | lost {t' : SocketTransport} {frame sent stream : Bytes}
      (h : t.codec.encodeRequest ⟨t.devEui, request⟩ = .ok frame) (hsent : sent <+: frame)
      (hlink' : t'.link = none) (hover : t'.finished = t.finished ++ [t.writing ++ sent])
      (hread : t.reading = stream :: t'.reading) :
      Sends t request (.lost sent) t'
  | answered {t' : SocketTransport} {frame response stream : Bytes} {streams : List Bytes}
      (h : t.codec.encodeRequest ⟨t.devEui, request⟩ = .ok frame) (hfits : t.codec.Fits response)
      (hlink' : t'.link.isSome = true) (hover : t'.finished = t.finished)
      (hwritten : t'.writing = t.writing ++ frame)
      (hread : t.reading = (FrameCodec.responseFrame response ++ stream) :: streams)
      (hread' : t'.reading = stream :: streams) :
      Sends t request (.answered frame response) t'

variable {t t' : SocketTransport} {request : Bytes} {link : Link}

theorem connect_none (h : t.connect = (none, t')) :
    t.link = none ∧ t'.link = none ∧
      (t'.finished = t.finished ∧ t'.reading = t.reading ∨
        ∃ stream, t'.finished = t.finished ++ [[]] ∧ t.reading = stream :: t'.reading) := by
  unfold connect at h
  split at h
  · cases h
  · rename_i hlink
    split at h
    · cases h
      exact ⟨hlink, hlink, Or.inl ⟨rfl, rfl⟩⟩
    · rename_i rest hdials
      cases h
      refine ⟨hlink, hlink, Or.inl ⟨rfl, ?_⟩⟩
      rw [reading, reading, hdials, List.filterMap_cons_none rfl]
    · rename_i turns rest hdials
      split at h
      · cases h
        refine ⟨hlink, hlink, Or.inr ⟨turns.flatMap Turn.arrived, rfl, ?_⟩⟩
        simp [reading, hlink, hdials, Dial.stream?]
      · cases h

theorem connect_some (h : t.connect = (some link, t')) :
    t'.finished = t.finished ∧ t'.codec = t.codec ∧ link.written = t.writing ∧
      t.reading = link.upcoming :: t'.dials.filterMap Dial.stream? := by
  unfold connect at h
  split at h
  · rename_i l hlink
    cases h
    simp [writing, reading, hlink]
  · rename_i hlink
    split at h
    · cases h
    · cases h
    · rename_i turns rest hdials
      split at h
      · cases h
      · cases h
        simp [writing, reading, hlink, hdials, Dial.stream?, Link.upcoming,
          Reader.unread]

theorem send_sends (t : SocketTransport) (request : Bytes) :
    (t.send request).1 = (t.fate request).outcome ∧
      Sends t request (t.fate request) (t.send request).2 := by
  unfold send fate
  by_cases hstop : t.stopRequested = true
  · simp only [if_pos hstop]
    exact ⟨rfl, .stopped hstop⟩
  · simp only [if_neg hstop]
    rcases hframe : t.codec.encodeRequest ⟨t.devEui, request⟩ with e | frame
    · exact ⟨rfl, .refused (FrameCodec.encodeRequest_eq_error.1 ⟨e, hframe⟩)⟩
    · have hmax := (FrameCodec.encodeRequest_eq_ok.1 hframe).1
      -- from here on a connection is asked for
      rcases hconnect : t.connect with ⟨_ | link, t₁⟩
      · obtain ⟨hlink, hlink', hover⟩ := connect_none hconnect
        exact ⟨rfl, .unreached hmax hlink hlink' hover⟩
      · obtain ⟨hover, hcodec, hwriting, hreading⟩ := connect_some hconnect
        rcases hexchange : link.exchange t.codec frame with ⟨e | response, after⟩
        · obtain ⟨sent, hsent, hwritten⟩ := Link.exchange_error hexchange
          simp only [hcodec, hexchange, hwritten, List.drop_left]
          refine ⟨rfl, .lost hframe hsent rfl ?_ hreading⟩
          rw [hover, hwriting]
        · obtain ⟨hfits, hwritten, hupcoming⟩ := Link.exchange_ok hexchange
          simp only [hcodec, hexchange, hwritten, List.drop_left]
          rw [hupcoming] at hreading
          refine ⟨rfl, .answered hframe hfits rfl hover ?_ hreading rfl⟩
          rw [← hwriting, ← hwritten]
          rfl

end SocketTransport

end SensorLink
