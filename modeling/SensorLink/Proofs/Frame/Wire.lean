import SensorLink.Frame

namespace SensorLink

namespace DevEui

@[simp] theorem length_toLeBytes (e : DevEui) : e.toLeBytes.length = byteWidth :=
  length_leBytes _ _

theorem ofLeBytes_toLeBytes (e : DevEui) : ofLeBytes e.toLeBytes = e := by
  have h : e.value.toNat % wordCount byteWidth = e.value.toNat :=
    Nat.mod_eq_of_lt e.value.toNat_lt
  rw [ofLeBytes, toLeBytes, SensorLink.ofLeBytes_leBytes, h, UInt64.ofNat_toNat]

theorem toLeBytes_ofLeBytes {bs : Bytes} (h : bs.length = byteWidth) :
    (ofLeBytes bs).toLeBytes = bs := by
  have hlt : SensorLink.ofLeBytes bs < 2 ^ 64 := by
    have := ofLeBytes_lt bs
    rw [h] at this
    exact this
  have hword := leBytes_ofLeBytes bs
  rw [h] at hword
  rw [toLeBytes, ofLeBytes, UInt64.toNat_ofNat_of_lt' hlt, hword]

end DevEui

namespace FrameCodec

def responseFrame (payload : Bytes) : Bytes := leBytes lengthWidth payload.length ++ payload

def requestFrame (r : Request) : Bytes := r.devEui.toLeBytes ++ responseFrame r.payload

/-- The codec admits the payload, and the length field can hold its length. -/
def Fits (c : FrameCodec) (payload : Bytes) : Prop :=
  payload.length ≤ c.maxPayload ∧ payload.length < wordCount lengthWidth

instance (c : FrameCodec) (payload : Bytes) : Decidable (c.Fits payload) :=
  inferInstanceAs (Decidable (_ ∧ _))

@[simp] theorem length_responseFrame (payload : Bytes) :
    (responseFrame payload).length = lengthWidth + payload.length := by
  simp [responseFrame]

@[simp] theorem length_requestFrame (r : Request) :
    (requestFrame r).length = requestHeader + r.payload.length := by
  simp [requestFrame, requestHeader, Nat.add_assoc]

theorem responseFrame_ne_nil (payload : Bytes) : responseFrame payload ≠ [] := by
  intro h
  have := congrArg List.length h
  simp [lengthWidth] at this

theorem requestFrame_ne_nil (r : Request) : requestFrame r ≠ [] := by
  intro h
  have := congrArg List.length h
  simp [requestHeader, lengthWidth] at this

variable {c : FrameCodec} {r : Request} {buffer more payload rest frame : Bytes} {e : FrameError}

theorem checkLength_eq_ok {length : Nat} :
    c.checkLength length = .ok () ↔ length ≤ c.maxPayload := by
  unfold checkLength
  split <;> simp <;> omega

theorem encodeResponse_eq_ok :
    c.encodeResponse payload = .ok frame ↔
      payload.length ≤ c.maxPayload ∧ frame = responseFrame payload := by
  simp only [encodeResponse, responseHead, bind, Except.bind, checkLength]
  by_cases hmax : c.maxPayload < payload.length
  · have hle : ¬ payload.length ≤ c.maxPayload := by omega
    simp [if_pos hmax, Except.map, hle]
  · have hle : payload.length ≤ c.maxPayload := by omega
    simp [if_neg hmax, Except.map, pure, Except.pure, responseFrame, hle, eq_comm]

theorem encodeRequest_eq_map :
    c.encodeRequest r = (c.encodeResponse r.payload).map (r.devEui.toLeBytes ++ ·) := by
  simp only [encodeRequest, requestHead, encodeResponse]
  cases c.responseHead r.payload.length <;> simp [Except.map]

theorem encodeRequest_eq_ok :
    c.encodeRequest r = .ok frame ↔
      r.payload.length ≤ c.maxPayload ∧ frame = requestFrame r := by
  rw [encodeRequest_eq_map]
  constructor
  · intro h
    cases hr : c.encodeResponse r.payload with
    | error e => simp [hr, Except.map] at h
    | ok body =>
      obtain ⟨hle, rfl⟩ := encodeResponse_eq_ok.1 hr
      simp only [hr, Except.map, Except.ok.injEq] at h
      exact ⟨hle, h.symm⟩
  · rintro ⟨hle, rfl⟩
    rw [encodeResponse_eq_ok.2 ⟨hle, rfl⟩]
    rfl

theorem encodeRequest_eq_error :
    (∃ e, c.encodeRequest r = .error e) ↔ c.maxPayload < r.payload.length := by
  constructor
  · rintro ⟨e, he⟩
    by_cases hle : r.payload.length ≤ c.maxPayload
    · rw [encodeRequest_eq_ok.2 ⟨hle, rfl⟩] at he
      cases he
    · omega
  · intro hlt
    rcases h : c.encodeRequest r with e | frame
    · exact ⟨e, rfl⟩
    · have hle := (encodeRequest_eq_ok.1 h).1
      omega

theorem splitResponse_of_short (h : buffer.length < lengthWidth) :
    c.splitResponse buffer = .ok none := by
  have hl : (buffer.take lengthWidth).length < lengthWidth := by
    rw [List.length_take]
    omega
  simp only [splitResponse, if_pos hl]
  rfl

theorem splitResponse_word {n : Nat} (hn : n < wordCount lengthWidth) (body : Bytes) :
    c.splitResponse (leBytes lengthWidth n ++ body) =
      if c.maxPayload < n then .error (.tooLarge n c.maxPayload)
      else if body.length < n then .ok none
      else .ok (some (body.take n, body.drop n)) := by
  have htake : (leBytes lengthWidth n ++ body).take lengthWidth = leBytes lengthWidth n :=
    List.take_left' (length_leBytes _ _)
  have hdrop : (leBytes lengthWidth n ++ body).drop lengthWidth = body :=
    List.drop_left' (length_leBytes _ _)
  have hword : ofLeBytes (leBytes lengthWidth n) = n := by
    rw [ofLeBytes_leBytes, Nat.mod_eq_of_lt hn]
  have hshort : (body.take n).length < n ↔ body.length < n := by
    rw [List.length_take]
    omega
  simp only [splitResponse, htake, hdrop, hword, length_leBytes, Nat.lt_irrefl, if_false,
    checkLength, hshort, bind, Except.bind]
  by_cases hmax : c.maxPayload < n
  · simp only [if_pos hmax]
  · simp only [if_neg hmax]
    rfl

theorem splitResponse_some (h : c.splitResponse buffer = .ok (some (payload, rest))) :
    c.Fits payload ∧ buffer = responseFrame payload ++ rest := by
  rcases short_or_word lengthWidth buffer with hshort | ⟨n, body, hn, rfl⟩
  · rw [splitResponse_of_short hshort] at h
    cases h
  · rw [splitResponse_word hn] at h
    split at h
    · cases h
    · split at h
      · cases h
      · rename_i hmax hbody
        simp only [Except.ok.injEq, Option.some.injEq, Prod.mk.injEq] at h
        obtain ⟨rfl, rfl⟩ := h
        have hp : (body.take n).length = n := by
          rw [List.length_take]
          omega
        refine ⟨⟨by omega, by omega⟩, ?_⟩
        rw [responseFrame, hp, List.append_assoc, List.take_append_drop]

/-- A response is split off exactly if the buffer begins with the frame of a payload that fits. -/
theorem splitResponse_eq_some :
    c.splitResponse buffer = .ok (some (payload, rest)) ↔
      c.Fits payload ∧ buffer = responseFrame payload ++ rest := by
  refine ⟨splitResponse_some, ?_⟩
  rintro ⟨⟨hmax, hwidth⟩, rfl⟩
  rw [responseFrame, List.append_assoc, splitResponse_word hwidth, if_neg (by omega),
    if_neg (by rw [List.length_append]; omega), List.take_left, List.drop_left]

theorem splitResponse_append_of_error (h : c.splitResponse buffer = .error e) :
    c.splitResponse (buffer ++ more) = .error e := by
  rcases short_or_word lengthWidth buffer with hshort | ⟨n, body, hn, rfl⟩
  · rw [splitResponse_of_short hshort] at h
    cases h
  · rw [splitResponse_word hn] at h
    rw [List.append_assoc, splitResponse_word hn]
    split at h
    · rename_i hmax
      rw [if_pos hmax]
      exact h
    · split at h <;> cases h

theorem splitRequest_eq_map :
    c.splitRequest buffer = (c.splitResponse (buffer.drop DevEui.byteWidth)).map
      (Option.map fun (payload, rest) =>
        (⟨.ofLeBytes (buffer.take DevEui.byteWidth), payload⟩, rest)) := by
  simp only [splitRequest, bind, Except.bind]
  rcases c.splitResponse (buffer.drop DevEui.byteWidth) with e | _ | ⟨payload, rest⟩ <;> rfl

theorem splitRequest_append (e : DevEui) (buffer : Bytes) :
    c.splitRequest (e.toLeBytes ++ buffer) =
      (c.splitResponse buffer).map (Option.map fun (payload, rest) => (⟨e, payload⟩, rest)) := by
  rw [splitRequest_eq_map, List.take_left' e.length_toLeBytes, List.drop_left' e.length_toLeBytes,
    DevEui.ofLeBytes_toLeBytes]

theorem splitRequest_of_short (h : buffer.length < DevEui.byteWidth) :
    c.splitRequest buffer = .ok none := by
  rw [splitRequest_eq_map, List.drop_of_length_le (by omega), splitResponse_of_short (by decide)]
  rfl

theorem short_or_devEui (buffer : Bytes) : buffer.length < DevEui.byteWidth ∨
    ∃ (e : DevEui) (rest : Bytes), buffer = e.toLeBytes ++ rest := by
  by_cases hshort : buffer.length < DevEui.byteWidth
  · exact Or.inl hshort
  · have hlen : (buffer.take DevEui.byteWidth).length = DevEui.byteWidth := by
      rw [List.length_take]
      omega
    refine Or.inr ⟨.ofLeBytes (buffer.take DevEui.byteWidth), buffer.drop DevEui.byteWidth, ?_⟩
    rw [DevEui.toLeBytes_ofLeBytes hlen, List.take_append_drop]

theorem splitRequest_eq_some :
    c.splitRequest buffer = .ok (some (r, rest)) ↔
      c.Fits r.payload ∧ buffer = requestFrame r ++ rest := by
  constructor
  · intro h
    rcases short_or_devEui buffer with hshort | ⟨e, body, rfl⟩
    · rw [splitRequest_of_short hshort] at h
      cases h
    · rw [splitRequest_append] at h
      rcases hs : c.splitResponse body with fault | _ | ⟨payload, tail⟩
      · simp [hs, Except.map] at h
      · simp [hs, Except.map] at h
      · simp only [hs, Except.map, Option.map_some, Except.ok.injEq, Option.some.injEq,
          Prod.mk.injEq] at h
        obtain ⟨rfl, rfl⟩ := h
        obtain ⟨hfits, rfl⟩ := splitResponse_eq_some.1 hs
        exact ⟨hfits, by rw [requestFrame, List.append_assoc]⟩
  · rintro ⟨hfits, rfl⟩
    rw [requestFrame, List.append_assoc, splitRequest_append,
      splitResponse_eq_some.2 ⟨hfits, rfl⟩]
    rfl

theorem splitRequest_append_of_error (h : c.splitRequest buffer = .error e) :
    c.splitRequest (buffer ++ more) = .error e := by
  rcases short_or_devEui buffer with hshort | ⟨eui, body, rfl⟩
  · rw [splitRequest_of_short hshort] at h
    cases h
  · rw [splitRequest_append] at h
    rw [List.append_assoc, splitRequest_append]
    rcases hs : c.splitResponse body with fault | _ | ⟨payload, tail⟩
    · rw [splitResponse_append_of_error hs]
      rw [hs] at h
      exact h
    · simp [hs, Except.map] at h
    · simp [hs, Except.map] at h

end FrameCodec

end SensorLink
