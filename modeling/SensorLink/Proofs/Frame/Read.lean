import SensorLink.Frame.Reader
import SensorLink.Proofs.Frame.Wire

namespace SensorLink

def ReadEvent.bytes : ReadEvent → Bytes
  | .data bytes => bytes
  | .fault _ => []

/-- An event that does not end a read. -/
def ReadEvent.Calm (event : ReadEvent) : Prop :=
  ∀ e, event = .fault e → e = .interrupted

instance (event : ReadEvent) : Decidable event.Calm :=
  match event with
  | .data _ => .isTrue fun _ he => nomatch he
  | .fault e => decidable_of_iff (e = .interrupted)
      ⟨fun h _ he => ReadEvent.fault.inj he ▸ h, fun h => h e rfl⟩

namespace Reader

variable {dry : Option IoError} {events later left : List ReadEvent} {r r' : Reader} {n : Nat}
  {bytes more piece : Bytes}

theorem unread_eq (r : Reader) : r.unread = r.events.flatMap ReadEvent.bytes := rfl

theorem takeExact_ok (h : takeExact dry n events = (.ok bytes, left)) :
    bytes.length = n ∧
      events.flatMap ReadEvent.bytes = bytes ++ left.flatMap ReadEvent.bytes := by
  fun_induction takeExact dry n events generalizing bytes with
  | case1 events =>
    cases h
    exact ⟨rfl, rfl⟩
  | case2 n => cases h
  | case3 n rest ih =>
    obtain ⟨hlen, hbytes⟩ := ih h
    exact ⟨hlen, hbytes⟩
  | case4 n e rest he => cases h
  -- the piece is taken whole, and the rest is read behind it
  | case5 n piece rest hdrop result events hrest ih =>
    rcases hresult : result with e | tail
    · rw [hresult] at h
      cases h
    · rw [hresult] at h hrest
      cases h
      obtain ⟨hlen, hbytes⟩ := ih hrest
      have hpiece : piece.length ≤ n + 1 := List.drop_eq_nil_iff.1 hdrop
      refine ⟨?_, ?_⟩
      · rw [List.length_append, hlen]
        omega
      · rw [List.flatMap_cons, hbytes, List.append_assoc]
        rfl
  -- the piece is longer than what is still to be read
  | case6 n piece rest hmore =>
    cases h
    have hlen : n + 1 < piece.length := by
      have := mt List.drop_eq_nil_iff.2 hmore
      omega
    refine ⟨?_, ?_⟩
    · rw [List.length_take]
      omega
    · rw [List.flatMap_cons, List.flatMap_cons, ReadEvent.bytes, ReadEvent.bytes,
        ← List.append_assoc, List.take_append_drop]

theorem readExact_ok (h : r.readExact n = (.ok bytes, r')) :
    bytes.length = n ∧ r.unread = bytes ++ r'.unread := by
  rw [readExact] at h
  rcases htake : takeExact r.dry n r.events with ⟨result, left⟩
  rw [htake] at h
  cases h
  exact takeExact_ok htake

theorem takeExact_data_of_le (h : piece.length ≤ n + 1) :
    takeExact dry (n + 1) (.data piece :: events) =
      ((takeExact dry (n + 1 - piece.length) events).1.map (piece ++ ·),
        (takeExact dry (n + 1 - piece.length) events).2) := by
  rw [takeExact, List.drop_of_length_le h]

theorem takeExact_data_of_lt (h : n + 1 < piece.length) :
    takeExact dry (n + 1) (.data piece :: events) =
      (.ok (piece.take (n + 1)), .data (piece.drop (n + 1)) :: events) := by
  rw [takeExact]
  split
  · rename_i hdrop
    have hle := List.drop_eq_nil_iff.1 hdrop
    omega
  · rfl

theorem takeExact_of_calm (dry : Option IoError) (hcalm : ∀ event ∈ events, event.Calm)
    (h : events.flatMap ReadEvent.bytes = bytes ++ more) (later : List ReadEvent) :
    ∃ left : List ReadEvent, (∀ event ∈ left, event.Calm) ∧
      left.flatMap ReadEvent.bytes = more ∧
      takeExact dry bytes.length (events ++ later) = (.ok bytes, left ++ later) := by
  induction events generalizing bytes with
  | nil =>
    obtain ⟨rfl, rfl⟩ := List.append_eq_nil_iff.1 h.symm
    exact ⟨[], by simp, rfl, by simp [takeExact]⟩
  | cons event events ih =>
    have hrest : ∀ event ∈ events, event.Calm := fun x hx => hcalm x (List.mem_cons_of_mem _ hx)
    rcases bytes with _ | ⟨b, bytes⟩
    · exact ⟨event :: events, hcalm, h, by simp [takeExact]⟩
    · cases event with
      | fault e =>
        have he : e = .interrupted := hcalm _ (List.mem_cons_self ..) e rfl
        obtain ⟨left, hleft, hmore, htake⟩ := ih hrest h
        refine ⟨left, hleft, hmore, ?_⟩
        rw [List.length_cons, List.cons_append, takeExact, if_pos he]
        exact htake
      | data piece =>
        rw [List.flatMap_cons, ReadEvent.bytes] at h
        rw [List.cons_append]
        -- the piece holds all the bytes that are wanted and more, or at most those
        rcases Nat.lt_or_ge (bytes.length + 1) piece.length with hlt | hle
        · have hfront : b :: bytes <+: piece :=
            List.prefix_of_prefix_length_le ⟨more, h.symm⟩ ⟨_, rfl⟩ (Nat.le_of_lt hlt)
          obtain ⟨tail, rfl⟩ := hfront
          rw [List.append_assoc] at h
          refine ⟨.data tail :: events, ?_, List.append_cancel_left h, ?_⟩
          · intro x hx
            rcases List.mem_cons.1 hx with rfl | hx
            · intro e he
              cases he
            · exact hrest x hx
          · have hlen : (b :: bytes).length = bytes.length + 1 := List.length_cons
            rw [hlen, takeExact_data_of_lt hlt, List.take_left' hlen, List.drop_left' hlen]
            rfl
        · have hfront : piece <+: b :: bytes :=
            List.prefix_of_prefix_length_le ⟨_, rfl⟩ ⟨more, h.symm⟩ hle
          obtain ⟨tail, htail⟩ := hfront
          rw [← htail, List.append_assoc] at h
          obtain ⟨left, hleft, hmore, htake⟩ := ih hrest (List.append_cancel_left h)
          refine ⟨left, hleft, hmore, ?_⟩
          have hlen : bytes.length + 1 - piece.length = tail.length := by
            have hsum := congrArg List.length htail
            rw [List.length_append, List.length_cons] at hsum
            omega
          rw [List.length_cons, takeExact_data_of_le hle, hlen, htake, ← htail]
          rfl

theorem readExact_of_calm (hevents : r.events = events ++ later)
    (hcalm : ∀ event ∈ events, event.Calm)
    (h : events.flatMap ReadEvent.bytes = bytes ++ more) :
    ∃ left : List ReadEvent, (∀ event ∈ left, event.Calm) ∧
      left.flatMap ReadEvent.bytes = more ∧
      r.readExact bytes.length = (.ok bytes, { r with events := left ++ later }) := by
  obtain ⟨left, hleft, hmore, htake⟩ := takeExact_of_calm r.dry hcalm h later
  refine ⟨left, hleft, hmore, ?_⟩
  rw [readExact, hevents, htake]

end Reader

namespace FrameCodec

variable {c : FrameCodec} {r r' : Reader} {events later : List ReadEvent} {payload more : Bytes}

/-- A response that was read is the first frame of the unread bytes, and nothing behind it is lost. -/
theorem readResponse_ok (h : c.readResponse r = (.ok payload, r')) :
    c.Fits payload ∧ r.unread = responseFrame payload ++ r'.unread := by
  rw [readResponse] at h
  rcases hfield : r.readExact lengthWidth with ⟨e | field, r₁⟩
  · rw [hfield] at h
    cases h
  · obtain ⟨hwidth, hunread⟩ := Reader.readExact_ok hfield
    rw [hfield] at h
    -- the length is checked before any of the payload is read
    rcases hcheck : c.checkLength (ofLeBytes field) with e | _
    · simp only [hcheck] at h
      cases h
    · simp only [hcheck] at h
      rcases hbody : r₁.readExact (ofLeBytes field) with ⟨e | body, r₂⟩
      · rw [hbody] at h
        cases h
      · rw [hbody] at h
        cases h
        obtain ⟨hlen, hrest⟩ := Reader.readExact_ok hbody
        have hlt := ofLeBytes_lt field
        have hword := leBytes_ofLeBytes field
        rw [hwidth] at hlt hword
        refine ⟨⟨?_, ?_⟩, ?_⟩
        · rw [hlen]
          exact checkLength_eq_ok.1 hcheck
        · omega
        · rw [responseFrame, hlen, hword, List.append_assoc, ← hrest, hunread]

theorem readResponse_of_calm (hevents : r.events = events ++ later)
    (hcalm : ∀ event ∈ events, event.Calm) (hfits : c.Fits payload)
    (h : events.flatMap ReadEvent.bytes = responseFrame payload ++ more) :
    (c.readResponse r).1 = .ok payload := by
  rw [responseFrame, List.append_assoc] at h
  obtain ⟨left, hleft, hmore, hfield⟩ := Reader.readExact_of_calm hevents hcalm h
  obtain ⟨left', -, -, hbody⟩ :=
    Reader.readExact_of_calm (r := { r with events := left ++ later }) rfl hleft hmore
  have hword : ofLeBytes (leBytes lengthWidth payload.length) = payload.length := by
    rw [ofLeBytes_leBytes, Nat.mod_eq_of_lt hfits.2]
  rw [length_leBytes] at hfield
  have hcheck := checkLength_eq_ok.2 hfits.1
  simp only [readResponse, hfield, hword, hcheck, hbody]
  rfl

end FrameCodec

end SensorLink
