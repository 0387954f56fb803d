import Mathlib.Algebra.Group.Nat.Defs
import SensorLink.Proofs.Frame.Wire
import SensorLink.Record

namespace SensorLink

namespace FrameCodec

/-- The length that a response frame, or a request frame behind the identifier, declares. -/
def lengthField (frame : Bytes) : Nat := ofLeBytes (frame.take lengthWidth)

variable {c : FrameCodec} {r : Request} {payload frame : Bytes}

theorem lengthField_responseFrame (payload : Bytes) :
    lengthField (responseFrame payload) = payload.length % 2 ^ 32 := by
  rw [lengthField, responseFrame, List.take_left' (length_leBytes _ _), ofLeBytes_leBytes]
  rfl

theorem take_mod_eq_self :
    payload.take (payload.length % 2 ^ 32) = payload ↔ payload.length < 2 ^ 32 := by
  constructor
  · intro h
    have hlen := congrArg List.length h
    rw [List.length_take] at hlen
    omega
  · intro h
    rw [Nat.mod_eq_of_lt h, List.take_length]

theorem take_drop_mod :
    payload.take (payload.length % 2 ^ 32) = payload ∧ payload.drop (payload.length % 2 ^ 32) = [] ↔
      payload.length < 2 ^ 32 := by
  constructor
  · rintro ⟨htake, -⟩
    exact take_mod_eq_self.1 htake
  · intro h
    refine ⟨take_mod_eq_self.2 h, ?_⟩
    rw [Nat.mod_eq_of_lt h, List.drop_length]

/-- The length field alone decides how much of a payload is taken for the payload. -/
theorem splitResponse_written (c : FrameCodec) (payload : Bytes) :
    c.splitResponse (responseFrame payload) =
      if c.maxPayload < payload.length % 2 ^ 32 then
        .error (.tooLarge (payload.length % 2 ^ 32) c.maxPayload)
      else .ok (some (payload.take (payload.length % 2 ^ 32),
        payload.drop (payload.length % 2 ^ 32))) := by
  have hfield : payload.length % 2 ^ 32 < 2 ^ 32 := Nat.mod_lt _ (by decide)
  have hle : ¬ payload.length < payload.length % 2 ^ 32 := Nat.not_lt.2 (Nat.mod_le _ _)
  have hword : leBytes lengthWidth payload.length = leBytes lengthWidth (payload.length % 2 ^ 32) :=
    (leBytes_mod lengthWidth payload.length).symm
  rw [responseFrame, hword, splitResponse_word hfield, if_neg hle]

theorem splitResponse_responseFrame (h : payload.length ≤ c.maxPayload) :
    c.splitResponse (responseFrame payload) =
      .ok (some (payload.take (payload.length % 2 ^ 32), payload.drop (payload.length % 2 ^ 32))) := by
  have hmax : ¬ c.maxPayload < payload.length % 2 ^ 32 :=
    Nat.not_lt.2 (Nat.le_trans (Nat.mod_le _ _) h)
  rw [splitResponse_written, if_neg hmax]

theorem splitRequest_requestFrame (h : r.payload.length ≤ c.maxPayload) :
    c.splitRequest (requestFrame r) =
      .ok (some (⟨r.devEui, r.payload.take (r.payload.length % 2 ^ 32)⟩,
        r.payload.drop (r.payload.length % 2 ^ 32))) := by
  rw [requestFrame, splitRequest_append, splitResponse_responseFrame h]
  rfl

theorem decodeRequest_requestFrame (h : r.payload.length ≤ c.maxPayload) :
    c.decodeRequest (requestFrame r) =
      .ok ⟨r.devEui, r.payload.take (r.payload.length % 2 ^ 32)⟩ := by
  rw [decodeRequest, splitRequest_requestFrame h]
  rfl

/-- What the maximum admits is encoded, with the length modulo 2^32 in the length field. The decoder
takes so many bytes of the payload and leaves the others, so that it gives back what was encoded, with
nothing over, exactly if the payload is shorter than 2^32 bytes. -/
theorem decode_encoded (c : FrameCodec) (r : Request) (frame : Bytes) :
    let n := r.payload.length % 2 ^ 32
    ((∃ frame, c.encodeRequest r = .ok frame) ↔ r.payload.length ≤ c.maxPayload) ∧
    ((∃ frame, c.encodeResponse r.payload = .ok frame) ↔ r.payload.length ≤ c.maxPayload) ∧
    (c.encodeRequest r = .ok frame →
      lengthField (frame.drop DevEui.byteWidth) = n ∧
      c.splitRequest frame = .ok (some (⟨r.devEui, r.payload.take n⟩, r.payload.drop n)) ∧
      (c.splitRequest frame = .ok (some (r, [])) ↔ r.payload.length < 2 ^ 32) ∧
      (c.decodeRequest frame = .ok r ↔ r.payload.length < 2 ^ 32)) ∧
    (c.encodeResponse r.payload = .ok frame →
      lengthField frame = n ∧
      c.splitResponse frame = .ok (some (r.payload.take n, r.payload.drop n)) ∧
      (c.splitResponse frame = .ok (some (r.payload, [])) ↔ r.payload.length < 2 ^ 32)) := by
  intro n
  refine ⟨?_, ?_, ?_, ?_⟩
  · simp [encodeRequest_eq_ok]
  · simp [encodeResponse_eq_ok]
  · intro h
    obtain ⟨hmax, rfl⟩ := encodeRequest_eq_ok.1 h
    -- the request comes back whole exactly if its payload does
    have htake : (⟨r.devEui, r.payload.take n⟩ : Request) = r ↔ r.payload.take n = r.payload := by
      constructor
      · intro heq
        exact congrArg Request.payload heq
      · intro heq
        rw [heq]
    refine ⟨?_, splitRequest_requestFrame hmax, ?_, ?_⟩
    · rw [requestFrame, List.drop_left' r.devEui.length_toLeBytes, lengthField_responseFrame]
    · rw [splitRequest_requestFrame hmax, Except.ok.injEq, Option.some.injEq, Prod.mk.injEq, htake]
      exact take_drop_mod
    · rw [decodeRequest_requestFrame hmax, Except.ok.injEq, htake]
      exact take_mod_eq_self
  · intro h
    obtain ⟨hmax, rfl⟩ := encodeResponse_eq_ok.1 h
    refine ⟨lengthField_responseFrame _, splitResponse_responseFrame hmax, ?_⟩
    rw [splitResponse_responseFrame hmax, Except.ok.injEq, Option.some.injEq, Prod.mk.injEq]
    exact take_drop_mod

/-- Three bytes come back as they were. -/
theorem decode_encoded_three :
    ({} : FrameCodec).encodeRequest ⟨⟨1⟩, [7, 8, 9]⟩ =
      .ok [1, 0, 0, 0, 0, 0, 0, 0, 3, 0, 0, 0, 7, 8, 9] ∧
    ({} : FrameCodec).decodeRequest [1, 0, 0, 0, 0, 0, 0, 0, 3, 0, 0, 0, 7, 8, 9] =
      .ok ⟨⟨1⟩, [7, 8, 9]⟩ := by
  have he : ({} : FrameCodec).encodeRequest ⟨⟨1⟩, [7, 8, 9]⟩ =
      .ok [1, 0, 0, 0, 0, 0, 0, 0, 3, 0, 0, 0, 7, 8, 9] := by rfl
  exact ⟨he, ((decode_encoded {} ⟨⟨1⟩, [7, 8, 9]⟩ _).2.2.1 he).2.2.2.2 (by decide)⟩

/-- A payload of 2^32 bytes goes out under a length field of zero, where a record of it is refused. -/
theorem length_field_wraps :
    ∃ frame,
      (⟨2 ^ 32⟩ : FrameCodec).encodeRequest ⟨⟨1⟩, List.replicate (2 ^ 32) 0⟩ = .ok frame ∧
      lengthField (frame.drop DevEui.byteWidth) = 0 ∧
      (⟨2 ^ 32⟩ : FrameCodec).decodeRequest frame = .ok ⟨⟨1⟩, []⟩ ∧
      Record.encode (List.replicate (2 ^ 32) 0) = .error (.lengthTooWide (2 ^ 32)) := by
  obtain ⟨payload, hp⟩ : ∃ payload : Bytes, payload = List.replicate (2 ^ 32) 0 := ⟨_, rfl⟩
  have hlen : payload.length = 2 ^ 32 := by rw [hp, List.length_replicate]
  have hmod : payload.length % 2 ^ 32 = 0 := by rw [hlen, Nat.mod_self]
  rw [← hp]
  have hmax : payload.length ≤ (⟨2 ^ 32⟩ : FrameCodec).maxPayload := Nat.le_of_eq hlen
  refine ⟨requestFrame ⟨⟨1⟩, payload⟩, encodeRequest_eq_ok.2 ⟨hmax, rfl⟩, ?_, ?_, ?_⟩
  · rw [requestFrame, List.drop_left' (DevEui.length_toLeBytes _), lengthField_responseFrame, hmod]
  · rw [decodeRequest_requestFrame hmax, hmod, List.take_zero]
  · have hwide : ¬ payload.length < wordCount Record.lengthWidth := by
      rw [hlen]
      decide
    rw [Record.encode, if_neg hwide, hlen]

end FrameCodec

end SensorLink
