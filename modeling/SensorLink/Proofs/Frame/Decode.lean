import SensorLink.Proofs.Frame.Length

namespace SensorLink

namespace FrameCodec

/-- The length that a request frame declares. -/
def declaredLength (frame : Bytes) : Nat := lengthField (frame.drop DevEui.byteWidth)

theorem short_or_header (frame : Bytes) : frame.length < requestHeader ∨
    ∃ (e : DevEui) (n : Nat) (body : Bytes), n < wordCount lengthWidth ∧
      frame = e.toLeBytes ++ (leBytes lengthWidth n ++ body) := by
  rcases short_or_devEui frame with hshort | ⟨e, rest, rfl⟩
  · left
    rw [requestHeader]
    omega
  · rcases short_or_word lengthWidth rest with hshort | ⟨n, body, hn, rfl⟩
    · left
      rw [List.length_append, e.length_toLeBytes, requestHeader]
      omega
    · exact Or.inr ⟨e, n, body, hn, rfl⟩

section Header

variable {c : FrameCodec} {frame : Bytes} {n : Nat}

@[simp] theorem length_header (e : DevEui) (n : Nat) (body : Bytes) :
    (e.toLeBytes ++ (leBytes lengthWidth n ++ body)).length = requestHeader + body.length := by
  simp only [List.length_append, DevEui.length_toLeBytes, length_leBytes, requestHeader]
  omega

theorem declaredLength_header (e : DevEui) (hn : n < wordCount lengthWidth) (body : Bytes) :
    declaredLength (e.toLeBytes ++ (leBytes lengthWidth n ++ body)) = n := by
  rw [declaredLength, List.drop_left' e.length_toLeBytes, lengthField,
    List.take_left' (length_leBytes _ _), ofLeBytes_leBytes, Nat.mod_eq_of_lt hn]

theorem requestLength_of_short (h : frame.length < requestHeader) :
    c.requestLength frame = .ok requestHeader := by
  rw [requestLength, if_pos h]
  rfl

theorem requestLength_header (e : DevEui) (hn : n < wordCount lengthWidth) (body : Bytes) :
    c.requestLength (e.toLeBytes ++ (leBytes lengthWidth n ++ body)) =
      if c.maxPayload < n then .error (.tooLarge n c.maxPayload) else .ok (requestHeader + n) := by
  have hlen : ¬ (e.toLeBytes ++ (leBytes lengthWidth n ++ body)).length < requestHeader := by
    rw [length_header]
    omega
  have hfield : ofLeBytes
      (((e.toLeBytes ++ (leBytes lengthWidth n ++ body)).drop DevEui.byteWidth).take lengthWidth) =
        n := declaredLength_header e hn body
  simp only [requestLength, if_neg hlen, hfield, checkLength]
  split <;> rfl

theorem decodeRequest_of_short (h : frame.length < requestHeader) :
    c.decodeRequest frame = .error (.incomplete (requestHeader - frame.length)) := by
  have hsplit : c.splitRequest frame = .ok none := by
    rcases short_or_devEui frame with hshort | ⟨e, rest, rfl⟩
    · exact splitRequest_of_short hshort
    · rw [List.length_append, e.length_toLeBytes, requestHeader] at h
      rw [splitRequest_append, splitResponse_of_short (by omega)]
      rfl
  rw [decodeRequest, hsplit]
  simp only [bind, Except.bind, requestLength_of_short h]
  rfl

/-- Behind a whole header, both passes over it find the same length. -/
theorem decodeRequest_header (e : DevEui) (hn : n < wordCount lengthWidth) (body : Bytes) :
    c.decodeRequest (e.toLeBytes ++ (leBytes lengthWidth n ++ body)) =
      if c.maxPayload < n then .error (.tooLarge n c.maxPayload)
      else if body.length < n then .error (.incomplete (n - body.length))
      else .ok ⟨e, body.take n⟩ := by
  have hlength := requestLength_header (c := c) e hn body
  rw [decodeRequest, splitRequest_append, splitResponse_word hn]
  by_cases hmax : c.maxPayload < n
  · rw [if_pos hmax, if_pos hmax]
    rfl
  · rw [if_neg hmax] at hlength ⊢
    rw [if_neg hmax]
    by_cases hbody : body.length < n
    · have hmissing : requestHeader + n - (requestHeader + body.length) = n - body.length := by
        omega
      rw [if_pos hbody, if_pos hbody, ← hmissing, ← length_header e n body]
      simp only [Except.map, Option.map, bind, Except.bind, hlength]
      rfl
    · rw [if_neg hbody, if_neg hbody]
      rfl

end Header

variable {c : FrameCodec} {frame more : Bytes} {r : Request} {n max k : Nat}

theorem decodeRequest_eq_ok :
    c.decodeRequest frame = .ok r ↔ c.Fits r.payload ∧ requestFrame r <+: frame := by
  constructor
  · intro h
    rcases short_or_header frame with hshort | ⟨e, n, body, hn, rfl⟩
    · rw [decodeRequest_of_short hshort] at h
      cases h
    · rw [decodeRequest_header e hn] at h
      split at h
      · cases h
      · split at h
        · cases h
        · rename_i hmax hbody
          have hlen : (body.take n).length = n := by
            rw [List.length_take]
            omega
          obtain rfl := Except.ok.inj h
          refine ⟨⟨by rw [hlen]; omega, by rw [hlen]; exact hn⟩, body.drop n, ?_⟩
          rw [requestFrame, responseFrame, hlen, List.append_assoc, List.append_assoc,
            List.take_append_drop]
  · rintro ⟨⟨hmax, hwidth⟩, rest, rfl⟩
    rw [requestFrame, responseFrame, List.append_assoc, List.append_assoc,
      decodeRequest_header _ hwidth, if_neg (by omega),
      if_neg (by rw [List.length_append]; omega), List.take_left]

theorem decodeRequest_eq_tooLarge :
    c.decodeRequest frame = .error (.tooLarge n max) ↔
      requestHeader ≤ frame.length ∧ declaredLength frame = n ∧ c.maxPayload < n ∧
        max = c.maxPayload := by
  rcases short_or_header frame with hshort | ⟨e, m, body, hm, rfl⟩
  · rw [decodeRequest_of_short hshort]
    constructor
    · intro h
      cases h
    · rintro ⟨hlen, -⟩
      omega
  -- behind a whole header the declared length decides
  · rw [decodeRequest_header e hm, declaredLength_header e hm, length_header]
    by_cases hmax : c.maxPayload < m
    · rw [if_pos hmax]
      constructor
      · intro h
        cases h
        exact ⟨Nat.le_add_right _ _, rfl, hmax, rfl⟩
      · rintro ⟨-, rfl, -, rfl⟩
        rfl
    · rw [if_neg hmax]
      constructor
      · intro h
        split at h <;> cases h
      · rintro ⟨-, rfl, hlt, -⟩
        exact absurd hlt hmax

theorem decodeRequest_cases (c : FrameCodec) (frame : Bytes) :
    (∃ r, c.decodeRequest frame = .ok r) ∨
      (∃ n max, c.decodeRequest frame = .error (.tooLarge n max)) ∨
        ∃ k, c.decodeRequest frame = .error (.incomplete k) := by
  rcases short_or_header frame with hshort | ⟨e, n, body, hn, rfl⟩
  · exact Or.inr (Or.inr ⟨_, decodeRequest_of_short hshort⟩)
  · rw [decodeRequest_header e hn]
    split
    · exact Or.inr (Or.inl ⟨_, _, rfl⟩)
    · split
      · exact Or.inr (Or.inr ⟨_, rfl⟩)
      · exact Or.inl ⟨_, rfl⟩

theorem decodeRequest_eq_incomplete (h : c.decodeRequest frame = .error (.incomplete k)) :
    (frame.length < requestHeader ∧ frame.length + k = requestHeader) ∨
      ∃ (e : DevEui) (n : Nat) (body : Bytes), n < wordCount lengthWidth ∧ n ≤ c.maxPayload ∧
        0 < k ∧ body.length + k = n ∧ frame = e.toLeBytes ++ (leBytes lengthWidth n ++ body) := by
  rcases short_or_header frame with hshort | ⟨e, n, body, hn, rfl⟩
  · rw [decodeRequest_of_short hshort] at h
    cases h
    left
    omega
  · rw [decodeRequest_header e hn] at h
    split at h
    · cases h
    · split at h
      · cases h
        exact Or.inr ⟨e, n, body, hn, by omega, by omega, by omega, rfl⟩
      · cases h

theorem requestLength_of_incomplete (h : c.decodeRequest frame = .error (.incomplete k)) :
    0 < k ∧ c.requestLength frame = .ok (frame.length + k) := by
  rcases decodeRequest_eq_incomplete h with ⟨hshort, hk⟩ | ⟨e, n, body, hn, hmax, hpos, hk, rfl⟩
  · refine ⟨by omega, ?_⟩
    rw [requestLength_of_short hshort, hk]
  · refine ⟨hpos, ?_⟩
    rw [requestLength_header e hn, if_neg (by omega), length_header, Nat.add_assoc, hk]

theorem decodeRequest_append_of_lt (h : c.decodeRequest frame = .error (.incomplete k))
    (hlt : more.length < k) :
    c.decodeRequest (frame ++ more) = .error (.incomplete (k - more.length)) := by
  rcases decodeRequest_eq_incomplete h with ⟨-, hk⟩ | ⟨e, n, body, hn, hmax, -, hk, rfl⟩
  · have hshort : (frame ++ more).length < requestHeader := by
      rw [List.length_append]
      omega
    have hmissing : requestHeader - (frame ++ more).length = k - more.length := by
      rw [List.length_append]
      omega
    rw [decodeRequest_of_short hshort, hmissing]
  · have hmissing : n - (body ++ more).length = k - more.length := by
      rw [List.length_append]
      omega
    rw [List.append_assoc, List.append_assoc, decodeRequest_header e hn, if_neg (by omega),
      if_pos (by rw [List.length_append]; omega), hmissing]

theorem decodeRequest_append_payload (h : c.decodeRequest frame = .error (.incomplete k))
    (hheader : requestHeader ≤ frame.length) (hlen : more.length = k) :
    ∃ r, c.decodeRequest (frame ++ more) = .ok r ∧ requestFrame r = frame ++ more := by
  rcases decodeRequest_eq_incomplete h with ⟨hshort, -⟩ | ⟨e, n, body, hn, hmax, -, hk, rfl⟩
  · omega
  · have hbody : (body ++ more).length = n := by
      rw [List.length_append]
      omega
    refine ⟨⟨e, body ++ more⟩, ?_, ?_⟩
    · rw [List.append_assoc, List.append_assoc, decodeRequest_header e hn, if_neg (by omega),
        if_neg (by omega), ← hbody, List.take_length]
    · rw [requestFrame, responseFrame, hbody, List.append_assoc, List.append_assoc]

/-- A header is whole with the bytes that were missing, and nothing follows it. -/
theorem decodeRequest_append_header (h : c.decodeRequest frame = .error (.incomplete k))
    (hshort : frame.length < requestHeader) (hlen : more.length = k) :
    let n := declaredLength (frame ++ more)
    c.decodeRequest (frame ++ more) =
      if c.maxPayload < n then .error (.tooLarge n c.maxPayload)
      else if n = 0 then .ok ⟨.ofLeBytes ((frame ++ more).take DevEui.byteWidth), []⟩
      else .error (.incomplete n) := by
  intro n
  have hk : (frame ++ more).length = requestHeader := by
    rcases decodeRequest_eq_incomplete h with ⟨-, hk⟩ | ⟨e, m, body, -, -, -, -, rfl⟩
    · rw [List.length_append, hlen, hk]
    · rw [length_header] at hshort
      omega
  rcases short_or_header (frame ++ more) with hless | ⟨e, m, body, hm, heq⟩
  · omega
  · obtain rfl : body = [] := by
      rw [heq, length_header] at hk
      exact List.eq_nil_of_length_eq_zero (by omega)
    have hn : n = m := by
      rw [← declaredLength_header e hm [], ← heq]
    have hdev : DevEui.ofLeBytes ((frame ++ more).take DevEui.byteWidth) = e := by
      rw [heq, List.take_left' e.length_toLeBytes, e.ofLeBytes_toLeBytes]
    rw [hdev, hn, heq, decodeRequest_header e hm, List.length_nil]
    by_cases hzero : m = 0
    · simp only [hzero, Nat.lt_irrefl, if_true, if_false, List.take_zero]
    · simp only [hzero, Nat.pos_of_ne_zero hzero, if_true, if_false, Nat.sub_zero]

/-- A byte string decodes to a request exactly if it begins with its frame and the payload fits; it is
refused exactly if its header is whole and declares a length over the maximum. Else bytes are missing,
at least one, and the second pass over the header counts them without going below zero. With fewer
bytes behind it the rest is missing still. With as many, a payload is whole and decodes; a header is
whole, and then its length is refused, or is zero, or so many bytes are missing. -/
theorem decodeRequest_exact (c : FrameCodec) (frame : Bytes) :
    (∀ e payload, c.decodeRequest frame = .ok ⟨e, payload⟩ ↔
      payload.length ≤ c.maxPayload ∧ payload.length < 2 ^ 32 ∧
        e.toLeBytes ++ (leBytes lengthWidth payload.length ++ payload) <+: frame) ∧
    (∀ n max, c.decodeRequest frame = .error (.tooLarge n max) ↔
      requestHeader ≤ frame.length ∧ declaredLength frame = n ∧ c.maxPayload < n ∧
        max = c.maxPayload) ∧
    ((∃ r, c.decodeRequest frame = .ok r) ∨
      (∃ n max, c.decodeRequest frame = .error (.tooLarge n max)) ∨
      ∃ k, c.decodeRequest frame = .error (.incomplete k) ∧
        0 < k ∧ c.requestLength frame = .ok (frame.length + k) ∧
        (∀ more : Bytes, more.length < k →
          c.decodeRequest (frame ++ more) = .error (.incomplete (k - more.length))) ∧
        ∀ more : Bytes, more.length = k →
          if requestHeader ≤ frame.length then
            ∃ r, c.decodeRequest (frame ++ more) = .ok r ∧ requestFrame r = frame ++ more
          else
            let n := declaredLength (frame ++ more)
            c.decodeRequest (frame ++ more) =
              if c.maxPayload < n then .error (.tooLarge n c.maxPayload)
              else if n = 0 then .ok ⟨.ofLeBytes ((frame ++ more).take DevEui.byteWidth), []⟩
              else .error (.incomplete n)) := by
  refine ⟨?_, fun n max => decodeRequest_eq_tooLarge, ?_⟩
  · intro e payload
    rw [decodeRequest_eq_ok]
    exact and_assoc
  · rcases c.decodeRequest_cases frame with hok | hlarge | ⟨k, hk⟩
    · exact Or.inl hok
    · exact Or.inr (Or.inl hlarge)
    · obtain ⟨hpos, hlength⟩ := requestLength_of_incomplete hk
      refine Or.inr (Or.inr ⟨k, hk, hpos, hlength, ?_, ?_⟩)
      · intro more hlt
        exact decodeRequest_append_of_lt hk hlt
      · intro more hlen
        by_cases hheader : requestHeader ≤ frame.length
        · rw [if_pos hheader]
          exact decodeRequest_append_payload hk hheader hlen
        · rw [if_neg hheader]
          exact decodeRequest_append_header hk (by omega) hlen

end FrameCodec

end SensorLink
