import SensorLink.Proofs.Frame.Wire

namespace SensorLink

/-- A kind of frame: how an item is written, which items fit, and how a buffer is split behind one. -/
structure FrameFormat (α : Type) where
  split : Bytes → Except FrameError (Option (α × Bytes))
  frame : α → Bytes
  Fits : α → Prop
  frame_ne_nil (a : α) : frame a ≠ []
  split_nil : split [] = .ok none
  split_eq_some {buffer rest : Bytes} {a : α} :
    split buffer = .ok (some (a, rest)) ↔ Fits a ∧ buffer = frame a ++ rest
  split_append_of_error {buffer more : Bytes} {e : FrameError} :
    split buffer = .error e → split (buffer ++ more) = .error e

namespace FrameCodec

def requests (c : FrameCodec) : FrameFormat Request where
  split := c.splitRequest
  frame := requestFrame
  Fits r := c.Fits r.payload
  frame_ne_nil := requestFrame_ne_nil
  split_nil := splitRequest_of_short (by decide)
  split_eq_some := splitRequest_eq_some
  split_append_of_error := splitRequest_append_of_error

def responses (c : FrameCodec) : FrameFormat Bytes where
  split := c.splitResponse
  frame := responseFrame
  Fits := c.Fits
  frame_ne_nil := responseFrame_ne_nil
  split_nil := splitResponse_of_short (by decide)
  split_eq_some := splitResponse_eq_some
  split_append_of_error := splitResponse_append_of_error

end FrameCodec

/-- What is taken off a buffer until nothing more can be: the items, the refusal if there is one, and
the bytes left. -/
structure Drained (α : Type) where
  items : List α
  fault : Option FrameError
  rest : Bytes
deriving DecidableEq, Repr

namespace FrameFormat

variable {α : Type} {f : FrameFormat α} {stream buffer rest more : Bytes} {a : α}
  {d d' : Drained α} {e : FrameError}

theorem length_lt_of_split (h : f.split buffer = .ok (some (a, rest))) :
    rest.length < buffer.length := by
  obtain ⟨-, rfl⟩ := f.split_eq_some.1 h
  have := List.length_pos_iff.2 (f.frame_ne_nil a)
  rw [List.length_append]
  omega

/-- Takes items off the front for as long as there is a whole one. -/
def drain (f : FrameFormat α) (buffer : Bytes) : Drained α :=
  match h : f.split buffer with
  | .error e => ⟨[], some e, buffer⟩
  | .ok none => ⟨[], none, buffer⟩
  | .ok (some (a, rest)) =>
    have := length_lt_of_split h
    let drained := f.drain rest
    { drained with items := a :: drained.items }
termination_by buffer.length

/-- Drains a buffer after each piece that arrives. After a refusal nothing more is taken. -/
def drainChunks (f : FrameFormat α) (buffer : Bytes) : List Bytes → Drained α
  | [] => ⟨[], none, buffer⟩
  | chunk :: chunks =>
    let first := f.drain (buffer ++ chunk)
    match first.fault with
    | some _ => { first with rest := first.rest ++ chunks.flatten }
    | none =>
      let later := f.drainChunks first.rest chunks
      { later with items := first.items ++ later.items }

/-- A split that yields no item: bytes are missing, or the frame is refused. -/
def stop : Option FrameError → Except FrameError (Option (α × Bytes))
  | none => .ok none
  | some e => .error e

/-- The stream is the frames of the items and a rest off which nothing more can be taken. -/
structure Drains (f : FrameFormat α) (stream : Bytes) (d : Drained α) : Prop where
  stream_eq : stream = d.items.flatMap f.frame ++ d.rest
  fits : ∀ a ∈ d.items, f.Fits a
  stopped : f.split d.rest = stop d.fault

theorem drain_of_stop {fault : Option FrameError} (h : f.split buffer = stop fault) :
    f.drain buffer = ⟨[], fault, buffer⟩ := by
  rw [drain]
  cases fault <;> split <;> simp_all [stop]

theorem drain_frame (h : f.Fits a) (rest : Bytes) :
    f.drain (f.frame a ++ rest) = { f.drain rest with items := a :: (f.drain rest).items } := by
  have hs : f.split (f.frame a ++ rest) = .ok (some (a, rest)) := f.split_eq_some.2 ⟨h, rfl⟩
  rw [drain]
  split <;> simp_all

theorem drains_drain (f : FrameFormat α) (buffer : Bytes) : f.Drains buffer (f.drain buffer) := by
  fun_induction drain f buffer with
  | case1 buffer e h => exact ⟨by simp, by simp, h⟩
  | case2 buffer h => exact ⟨by simp, by simp, h⟩
  | case3 buffer a rest h _ drained ih =>
    obtain ⟨hfits, rfl⟩ := f.split_eq_some.1 h
    refine ⟨?_, ?_, ih.stopped⟩
    · rw [List.flatMap_cons, List.append_assoc, ← ih.stream_eq]
    · intro b hb
      rcases List.mem_cons.1 hb with rfl | hb
      · exact hfits
      · exact ih.fits b hb

namespace Drains

theorem of_stop {fault : Option FrameError} (h : f.split buffer = stop fault) :
    f.Drains buffer ⟨[], fault, buffer⟩ :=
  ⟨by simp, by simp, h⟩

/-- There is one way to take a stream apart, and `drain` finds it. -/
theorem drain_eq (h : f.Drains stream d) : f.drain stream = d := by
  obtain ⟨items, fault, rest⟩ := d
  obtain ⟨rfl, hfits, hstop⟩ := h
  induction items with
  | nil => exact drain_of_stop hstop
  | cons a items ih =>
    have hrest := ih (fun b hb => hfits b (List.mem_cons_of_mem a hb)) hstop
    rw [List.flatMap_cons, List.append_assoc, drain_frame (hfits a (List.mem_cons_self ..)), hrest]

theorem append_of_fault (h : f.Drains stream d) (he : d.fault = some e) (more : Bytes) :
    f.Drains (stream ++ more) { d with rest := d.rest ++ more } where
  stream_eq := by rw [← List.append_assoc, ← h.stream_eq]
  fits := h.fits
  stopped := by
    have hs := h.stopped
    rw [he] at hs
    rw [he]
    exact f.split_append_of_error hs

/-- What was left over is taken apart with what arrives behind it. -/
theorem append (h : f.Drains stream d) (h' : f.Drains (d.rest ++ more) d') :
    f.Drains (stream ++ more) { d' with items := d.items ++ d'.items } where
  stream_eq := by
    rw [List.flatMap_append, List.append_assoc, ← h'.stream_eq, ← List.append_assoc,
      ← h.stream_eq]
  fits a ha := (List.mem_append.1 ha).elim (h.fits a) (h'.fits a)
  stopped := h'.stopped

end Drains

theorem drains_drainChunks (chunks : List Bytes) (h : f.split buffer = .ok none) :
    f.Drains (buffer ++ chunks.flatten) (f.drainChunks buffer chunks) := by
  -- between two pieces the buffer holds no whole frame
  induction chunks generalizing buffer with
  | nil =>
    rw [List.flatten_nil, List.append_nil]
    exact .of_stop h
  | cons chunk chunks ih =>
    have hfirst := f.drains_drain (buffer ++ chunk)
    rw [List.flatten_cons, ← List.append_assoc, drainChunks]
    rcases hd : f.drain (buffer ++ chunk) with ⟨items, _ | e, left⟩
    · rw [hd] at hfirst
      exact hfirst.append (ih hfirst.stopped)
    · rw [hd] at hfirst
      exact hfirst.append_of_fault rfl _

theorem drainChunks_eq (f : FrameFormat α) (chunks : List Bytes) :
    f.drainChunks [] chunks = f.drain chunks.flatten :=
  ((drains_drainChunks chunks f.split_nil).drain_eq).symm

/-- Frames that fit come out as they went in, and nothing is left. -/
theorem drain_frames {items : List α} (h : ∀ a ∈ items, f.Fits a) :
    f.drain (items.flatMap f.frame) = ⟨items, none, []⟩ :=
  Drains.drain_eq ⟨by simp, h, f.split_nil⟩

end FrameFormat

namespace FrameCodec

variable {c : FrameCodec}

theorem map_encodeRequest {rs : List Request} (h : ∀ r ∈ rs, r.payload.length ≤ c.maxPayload) :
    rs.map c.encodeRequest = (rs.map requestFrame).map .ok := by
  rw [List.map_map]
  exact List.map_congr_left fun r hr => encodeRequest_eq_ok.2 ⟨h r hr, rfl⟩

theorem map_encodeResponse {payloads : List Bytes} (h : ∀ p ∈ payloads, p.length ≤ c.maxPayload) :
    payloads.map c.encodeResponse = (payloads.map responseFrame).map .ok := by
  rw [List.map_map]
  exact List.map_congr_left fun p hp => encodeResponse_eq_ok.2 ⟨h p hp, rfl⟩

/-- However a stream is cut, draining it piece by piece comes to what draining it at once does, for
requests and for responses. In particular, what fits is encoded, and the encodings in any pieces
decode to just what was encoded. -/
theorem drainChunks_eq_drain (c : FrameCodec) (chunks : List Bytes) :
    c.requests.drainChunks [] chunks = c.requests.drain chunks.flatten ∧
    c.responses.drainChunks [] chunks = c.responses.drain chunks.flatten ∧
    (∀ rs : List Request, (∀ r ∈ rs, c.Fits r.payload) →
      ∃ frames : List Bytes, rs.map c.encodeRequest = frames.map .ok ∧
        (chunks.flatten = frames.flatten → c.requests.drainChunks [] chunks = ⟨rs, none, []⟩)) ∧
    (∀ payloads : List Bytes, (∀ p ∈ payloads, c.Fits p) →
      ∃ frames : List Bytes, payloads.map c.encodeResponse = frames.map .ok ∧
        (chunks.flatten = frames.flatten →
          c.responses.drainChunks [] chunks = ⟨payloads, none, []⟩)) := by
  refine ⟨c.requests.drainChunks_eq chunks, c.responses.drainChunks_eq chunks, ?_, ?_⟩
  · intro rs hfits
    refine ⟨_, map_encodeRequest fun r hr => (hfits r hr).1, fun hstream => ?_⟩
    rw [c.requests.drainChunks_eq, hstream, ← List.flatMap_def]
    exact c.requests.drain_frames hfits
  · intro payloads hfits
    refine ⟨_, map_encodeResponse fun p hp => (hfits p hp).1, fun hstream => ?_⟩
    rw [c.responses.drainChunks_eq, hstream, ← List.flatMap_def]
    exact c.responses.drain_frames hfits

/-- Two requests, the second empty, cut inside the identifier, the length field and the payload. -/
theorem drainChunks_eq_drain_inside_frames :
    ({} : FrameCodec).requests.drainChunks []
        [[1, 0, 0], [0, 0, 0, 0, 0, 2, 0], [0, 0, 7], [8, 2, 0, 0, 0, 0, 0, 0, 0, 0, 0, 0, 0]] =
      ⟨[⟨⟨1⟩, [7, 8]⟩, ⟨⟨2⟩, []⟩], none, []⟩ := by
  obtain ⟨frames, hframes, h⟩ := (drainChunks_eq_drain {}
    [[1, 0, 0], [0, 0, 0, 0, 0, 2, 0], [0, 0, 7], [8, 2, 0, 0, 0, 0, 0, 0, 0, 0, 0, 0, 0]]).2.2.1
    [⟨⟨1⟩, [7, 8]⟩, ⟨⟨2⟩, []⟩] (by decide)
  apply h
  rw [map_encodeRequest (by decide), List.map_inj_right fun _ _ h => Except.ok.inj h] at hframes
  rw [← hframes]
  decide

end FrameCodec

end SensorLink
