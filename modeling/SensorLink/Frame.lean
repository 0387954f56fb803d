import SensorLink.IoError
import SensorLink.Request

namespace SensorLink

inductive FrameError where
  | tooLarge (length max : Nat)
  | incomplete (missing : Nat)
  | io (e : IoError)
deriving DecidableEq, Repr

def FrameError.message : FrameError → String
  | .tooLarge length max =>
    "Frame too large: " ++ toString length ++ " bytes (max: " ++ toString max ++ ")"
  | .incomplete missing => "Incomplete frame: need " ++ toString missing ++ " more bytes"
  | .io e => "IO error: " ++ e.message

/-- Frames with a bound on payloads. A request is the device identifier (8 bytes), the payload
length (4 bytes) and the payload; a response lacks the identifier. All words are little-endian. -/
structure FrameCodec where
  maxPayload : Nat := 65536
deriving DecidableEq, Repr

namespace FrameCodec

def lengthWidth : Nat := 4

def requestHeader : Nat := DevEui.byteWidth + lengthWidth

def checkLength (c : FrameCodec) (length : Nat) : Except FrameError Unit :=
  if c.maxPayload < length then .error (.tooLarge length c.maxPayload) else .ok ()

/-- What stands before a response payload of some length; the field holds the low 32 bits of it. -/
def responseHead (c : FrameCodec) (length : Nat) : Except FrameError Bytes := do
  c.checkLength length
  return leBytes lengthWidth length

def encodeResponse (c : FrameCodec) (payload : Bytes) : Except FrameError Bytes :=
  (c.responseHead payload.length).map (· ++ payload)

def requestHead (c : FrameCodec) (e : DevEui) (length : Nat) : Except FrameError Bytes :=
  (c.responseHead length).map (e.toLeBytes ++ ·)

def encodeRequest (c : FrameCodec) (r : Request) : Except FrameError Bytes :=
  (c.requestHead r.devEui r.payload.length).map (· ++ r.payload)

/-- Splits a complete response off the front, with what follows it; `none` asks for more bytes. -/
def splitResponse (c : FrameCodec) (buffer : Bytes) :
    Except FrameError (Option (Bytes × Bytes)) := do
  let field := buffer.take lengthWidth
  if field.length < lengthWidth then return none
  let length := ofLeBytes field
  c.checkLength length
  let body := buffer.drop lengthWidth
  let payload := body.take length
  if payload.length < length then return none
  return some (payload, body.drop length)

def splitRequest (c : FrameCodec) (buffer : Bytes) :
    Except FrameError (Option (Request × Bytes)) := do
  match ← c.splitResponse (buffer.drop DevEui.byteWidth) with
  | none => return none
  | some (payload, rest) =>
    return some (⟨.ofLeBytes (buffer.take DevEui.byteWidth), payload⟩, rest)

/-- Bytes of the request at the front as far as the buffer tells: a whole frame, or its header. -/
def requestLength (c : FrameCodec) (buffer : Bytes) : Except FrameError Nat := do
  if buffer.length < requestHeader then return requestHeader
  let length := ofLeBytes ((buffer.drop DevEui.byteWidth).take lengthWidth)
  c.checkLength length
  return requestHeader + length

/-- Decodes the request at the front of `frame`; what follows it is ignored. -/
def decodeRequest (c : FrameCodec) (frame : Bytes) : Except FrameError Request := do
  match ← c.splitRequest frame with
  | some (r, _) => return r
  | none =>
    let length ← c.requestLength frame
    throw (.incomplete (length - frame.length))

theorem length_splitResponse {c : FrameCodec} {buffer payload rest : Bytes}
    (h : c.splitResponse buffer = .ok (some (payload, rest))) :
    rest.length + lengthWidth ≤ buffer.length := by
  unfold splitResponse at h
  simp only [bind, Except.bind, pure, Except.pure] at h
  split at h
  · simp at h
  · split at h
    · simp at h
    · split at h
      · simp at h
      · simp only [Except.ok.injEq, Option.some.injEq, Prod.mk.injEq] at h
        obtain ⟨-, rfl⟩ := h
        simp only [List.length_drop, List.length_take] at *
        omega

theorem length_splitRequest {c : FrameCodec} {buffer rest : Bytes} {r : Request}
    (h : c.splitRequest buffer = .ok (some (r, rest))) : rest.length < buffer.length := by
  unfold splitRequest at h
  simp only [bind, Except.bind, pure, Except.pure] at h
  split at h
  · simp at h
  · rename_i hs
    split at h
    · simp at h
    · rename_i payload tail
      simp only [Except.ok.injEq, Option.some.injEq, Prod.mk.injEq] at h
      obtain ⟨-, rfl⟩ := h
      have := length_splitResponse hs
      simp only [List.length_drop, lengthWidth] at this
      omega

def splitRequests (c : FrameCodec) (buffer : Bytes) : List Request :=
  match h : c.splitRequest buffer with
  | .ok (some (r, rest)) =>
    have := length_splitRequest h
    r :: c.splitRequests rest
  | _ => []
termination_by buffer.length

end FrameCodec

end SensorLink
