import SensorLink.Frame.Buffer
import SensorLink.Proofs.Frame.Wire

namespace SensorLink

/-- The bytes that a step appends. -/
def BufferStep.fed : BufferStep → Bytes
  | .feed bytes => bytes
  | .takeRequest | .takeResponse => []

namespace BufferResult

/-- The frame that was taken off, written again; nothing where there was none. -/
def written (c : FrameCodec) : BufferResult → Except FrameError Bytes
  | .request r => c.encodeRequest r
  | .response payload => c.encodeResponse payload
  | .fed | .waiting | .failed _ => .ok []

def isFrame : BufferResult → Bool
  | .request _ | .response _ => true
  | .fed | .waiting | .failed _ => false

end BufferResult

namespace FrameCodec

/-- The buffer after some steps. -/
def bufferAfter (c : FrameCodec) (buffer : Bytes) (steps : List BufferStep) : Bytes :=
  ((c.bufferSteps buffer steps).map (·.2)).getLastD buffer

variable (c : FrameCodec) (buffer : Bytes) (step : BufferStep) (steps later : List BufferStep)

theorem bufferAfter_cons :
    c.bufferAfter buffer (step :: steps) = c.bufferAfter (c.bufferStep buffer step).2 steps := by
  simp only [bufferAfter, bufferSteps, List.map_cons, List.getLastD_cons]

theorem bufferSteps_append : c.bufferSteps buffer (steps ++ later) =
    c.bufferSteps buffer steps ++ c.bufferSteps (c.bufferAfter buffer steps) later := by
  induction steps generalizing buffer with
  | nil => rfl
  | cons step rest ih =>
    rw [List.cons_append, bufferSteps, ih, bufferAfter_cons]
    rfl

theorem bufferStep_conserves : ∃ frame,
    (c.bufferStep buffer step).1.written c = .ok frame ∧
      buffer ++ step.fed = frame ++ (c.bufferStep buffer step).2 := by
  cases step with
  | feed bytes => exact ⟨[], rfl, rfl⟩
  | takeRequest =>
    simp only [bufferStep, BufferStep.fed, List.append_nil]
    rcases hs : c.splitRequest buffer with e | _ | ⟨r, rest⟩
    · exact ⟨[], rfl, rfl⟩
    · exact ⟨[], rfl, rfl⟩
    · obtain ⟨hfits, rfl⟩ := splitRequest_eq_some.1 hs
      exact ⟨requestFrame r, encodeRequest_eq_ok.2 ⟨hfits.1, rfl⟩, rfl⟩
  | takeResponse =>
    simp only [bufferStep, BufferStep.fed, List.append_nil]
    rcases hs : c.splitResponse buffer with e | _ | ⟨payload, rest⟩
    · exact ⟨[], rfl, rfl⟩
    · exact ⟨[], rfl, rfl⟩
    · obtain ⟨hfits, rfl⟩ := splitResponse_eq_some.1 hs
      exact ⟨responseFrame payload, encodeResponse_eq_ok.2 ⟨hfits.1, rfl⟩, rfl⟩

variable {c buffer step steps later}

theorem bufferStep_of_no_frame (h : (c.bufferStep buffer step).1.isFrame = false) :
    (c.bufferStep buffer step).2 = buffer ++ step.fed := by
  obtain ⟨frame, hframe, hbytes⟩ := c.bufferStep_conserves buffer step
  have hnil : frame = [] := by
    cases hr : (c.bufferStep buffer step).1 with
    | fed | waiting | failed _ =>
      rw [hr] at hframe
      exact (Except.ok.inj hframe).symm
    | request _ | response _ =>
      rw [hr] at h
      cases h
  rw [hbytes, hnil, List.nil_append]

theorem bufferStep_of_stuck (h : (c.bufferStep buffer step).1 = .waiting ∨
    ∃ e, (c.bufferStep buffer step).1 = .failed e) : (c.bufferStep buffer step).2 = buffer := by
  have hno : (c.bufferStep buffer step).1.isFrame = false := by
    rcases h with h | ⟨e, h⟩ <;> rw [h] <;> rfl
  have hfed : step.fed = [] := by
    cases step with
    | feed bytes => rcases h with h | ⟨e, h⟩ <;> cases h
    | takeRequest | takeResponse => rfl
  rw [bufferStep_of_no_frame hno, hfed, List.append_nil]

theorem tooLarge_of_splitResponse {e : FrameError} (h : c.splitResponse buffer = .error e) :
    ∃ n, c.maxPayload < n ∧ e = .tooLarge n c.maxPayload := by
  rcases short_or_word lengthWidth buffer with hshort | ⟨n, body, hn, rfl⟩
  · rw [splitResponse_of_short hshort] at h
    cases h
  · rw [splitResponse_word hn] at h
    split at h
    · rename_i hmax
      exact ⟨n, hmax, (Except.error.inj h).symm⟩
    · split at h <;> cases h

theorem tooLarge_of_splitRequest {e : FrameError} (h : c.splitRequest buffer = .error e) :
    ∃ n, c.maxPayload < n ∧ e = .tooLarge n c.maxPayload := by
  rw [splitRequest_eq_map] at h
  cases hs : c.splitResponse (buffer.drop DevEui.byteWidth) with
  | error e' =>
    rw [hs] at h
    exact Except.error.inj h ▸ tooLarge_of_splitResponse hs
  | ok found =>
    rw [hs] at h
    cases h

/-- What is refused has too large a length declared, and is refused again with more bytes behind it. -/
theorem bufferStep_of_failed {e : FrameError} (h : (c.bufferStep buffer step).1 = .failed e) :
    (∃ n, c.maxPayload < n ∧ e = .tooLarge n c.maxPayload) ∧
      ∀ more, c.bufferStep (buffer ++ more) step = (.failed e, buffer ++ more) := by
  cases step with
  | feed bytes => cases h
  | takeRequest =>
    simp only [bufferStep] at h ⊢
    rcases hs : c.splitRequest buffer with e' | _ | ⟨r, rest⟩ <;> rw [hs] at h <;> cases h
    refine ⟨tooLarge_of_splitRequest hs, fun more => ?_⟩
    rw [splitRequest_append_of_error hs]
  | takeResponse =>
    simp only [bufferStep] at h ⊢
    rcases hs : c.splitResponse buffer with e' | _ | ⟨payload, rest⟩ <;> rw [hs] at h <;> cases h
    refine ⟨tooLarge_of_splitResponse hs, fun more => ?_⟩
    rw [splitResponse_append_of_error hs]

variable (c buffer steps) in
theorem bufferSteps_conserve : ∃ frames : List Bytes,
    (c.bufferSteps buffer steps).map (·.1.written c) = frames.map .ok ∧
      buffer ++ steps.flatMap BufferStep.fed = frames.flatten ++ c.bufferAfter buffer steps := by
  -- each step conserves the bytes of the buffer that it finds
  induction steps generalizing buffer with
  | nil => exact ⟨[], rfl, List.append_nil buffer⟩
  | cons step rest ih =>
    obtain ⟨frame, hframe, hbytes⟩ := c.bufferStep_conserves buffer step
    obtain ⟨frames, hframes, hrest⟩ := ih (c.bufferStep buffer step).2
    refine ⟨frame :: frames, ?_, ?_⟩
    · rw [bufferSteps, List.map_cons, List.map_cons, hframe, hframes]
    · rw [List.flatMap_cons, ← List.append_assoc, hbytes, List.append_assoc, hrest,
        List.flatten_cons, List.append_assoc, bufferAfter_cons]

theorem bufferAfter_of_no_frames (h : ∀ q ∈ c.bufferSteps buffer steps, q.1.isFrame = false) :
    c.bufferAfter buffer steps = buffer ++ steps.flatMap BufferStep.fed := by
  induction steps generalizing buffer with
  | nil => exact (List.append_nil buffer).symm
  | cons step rest ih =>
    obtain ⟨hstep, hrest⟩ := List.forall_mem_cons.1 h
    rw [bufferAfter_cons, ih hrest, bufferStep_of_no_frame hstep, List.flatMap_cons,
      List.append_assoc]

/-- All that was fed to a buffer is in the frames taken off it, which can be written again, and in
what is left. A step that waits for more bytes or fails leaves the buffer as it was. It fails only on
too large a length, and then fails in the same way again, whatever is fed to the buffer in between and
whatever else is asked of it that takes no frame off. -/
theorem buffer_conserves (c : FrameCodec) (buffer : Bytes) (steps : List BufferStep) :
    let left := c.bufferAfter buffer steps
    (∃ frames : List Bytes,
      (c.bufferSteps buffer steps).map (·.1.written c) = frames.map .ok ∧
      buffer ++ steps.flatMap BufferStep.fed = frames.flatten ++ left) ∧
    ∀ step,
      let next := c.bufferStep left step
      c.bufferSteps buffer (steps ++ [step]) = c.bufferSteps buffer steps ++ [next] ∧
      (next.1 = .waiting ∨ (∃ e, next.1 = .failed e) → next.2 = left) ∧
      ∀ e, next.1 = .failed e →
        (∃ n, c.maxPayload < n ∧ e = .tooLarge n c.maxPayload) ∧
        ∀ later, (∀ q ∈ c.bufferSteps next.2 later, q.1.isFrame = false) →
          c.bufferStep (c.bufferAfter next.2 later) step =
            (.failed e, left ++ later.flatMap BufferStep.fed) := by
  intro left
  refine ⟨c.bufferSteps_conserve buffer steps, fun step => ?_⟩
  intro next
  refine ⟨c.bufferSteps_append buffer steps [step], bufferStep_of_stuck, fun e h => ?_⟩
  have hsame : next.2 = left := bufferStep_of_stuck (Or.inr ⟨e, h⟩)
  obtain ⟨hlarge, hagain⟩ := bufferStep_of_failed h
  refine ⟨hlarge, fun later hlater => ?_⟩
  rw [hsame] at hlater ⊢
  rw [bufferAfter_of_no_frames hlater]
  exact hagain _

end FrameCodec

end SensorLink
