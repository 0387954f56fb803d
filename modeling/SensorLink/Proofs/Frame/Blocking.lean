import Mathlib.Data.List.Basic
import SensorLink.Proofs.Frame.Conserved
import SensorLink.Proofs.Frame.Length
import SensorLink.Proofs.Frame.Read

namespace SensorLink

/-- What a source holds, byte by byte; each fault on it ends a read. -/
abbrev Tape := List (UInt8 ⊕ IoError)

/-- An interruption leaves no mark, since the read goes on. -/
def ReadEvent.marks : ReadEvent → Tape
  | .data bytes => bytes.map .inl
  | .fault e => if e = .interrupted then [] else [.inr e]

namespace Reader

def tapeOf (events : List ReadEvent) : Tape := events.flatMap ReadEvent.marks

def tape (r : Reader) : Tape := tapeOf r.events

/-- Takes exactly `n` bytes off a tape; a fault in their way is consumed in their place. -/
def takeTape (dry : Option IoError) : Nat → Tape → Except IoError Bytes × Tape
  | 0, t => (.ok [], t)
  | _ + 1, [] => (.error (dry.getD .unexpectedEnd), [])
  | _ + 1, .inr e :: t => (.error e, t)
  | n + 1, .inl b :: t => ((takeTape dry n t).1.map (b :: ·), (takeTape dry n t).2)

variable {dry : Option IoError} {events : List ReadEvent} {n : Nat} {e : IoError} {left : Tape}
  {bytes : Bytes} {r : Reader}

theorem filterMap_tape (r : Reader) : r.tape.filterMap Sum.getLeft? = r.unread := by
  rw [unread_eq, tape, tapeOf, List.filterMap_flatMap]
  congr 1
  funext event
  cases event with
  | data bytes => simp [ReadEvent.marks, ReadEvent.bytes, Function.comp_def]
  | fault e =>
    simp only [ReadEvent.marks, ReadEvent.bytes]
    split <;> rfl

theorem unread_of_tape (h : r.tape = bytes.map .inl) : r.unread = bytes := by
  rw [← filterMap_tape, h]
  simp [List.filterMap_map, Function.comp_def]

theorem tape_of_calm (h : ∀ event ∈ r.events, event.Calm) : r.tape = r.unread.map .inl := by
  rw [unread_eq, tape, tapeOf, List.map_flatMap]
  apply List.flatMap_congr
  intro event hevent
  cases event with
  | data bytes => rfl
  | fault e =>
    have he : e = .interrupted := h _ hevent e rfl
    simp only [ReadEvent.marks, if_pos he]
    rfl

theorem takeTape_append (dry : Option IoError) (bytes : Bytes) (n : Nat) (t : Tape) :
    takeTape dry (bytes.length + n) (bytes.map .inl ++ t) =
      ((takeTape dry n t).1.map (bytes ++ ·), (takeTape dry n t).2) := by
  induction bytes with
  | nil =>
    rw [List.length_nil, Nat.zero_add, List.map_nil, List.nil_append]
    cases takeTape dry n t with
    | mk result left => cases result <;> rfl
  | cons b bytes ih =>
    rw [List.length_cons, Nat.add_right_comm, List.map_cons, List.cons_append, takeTape, ih]
    cases (takeTape dry n t).1 <;> rfl

theorem takeTape_length (dry : Option IoError) (bytes : Bytes) (t : Tape) :
    takeTape dry bytes.length (bytes.map .inl ++ t) = (.ok bytes, t) := by
  have h := takeTape_append dry bytes 0 t
  rw [Nat.add_zero, takeTape] at h
  rw [h]
  simp [Except.map]

theorem takeTape_take (dry : Option IoError) (h : n ≤ bytes.length) (t : Tape) :
    takeTape dry n (bytes.map .inl ++ t) = (.ok (bytes.take n), (bytes.drop n).map .inl ++ t) := by
  have htake := takeTape_length dry (bytes.take n) ((bytes.drop n).map .inl ++ t)
  rwa [List.length_take, Nat.min_eq_left h, ← List.append_assoc, ← List.map_append,
    List.take_append_drop] at htake

theorem takeExact_tape (dry : Option IoError) (n : Nat) (events : List ReadEvent) :
    ((takeExact dry n events).1, tapeOf (takeExact dry n events).2) =
      takeTape dry n (tapeOf events) := by
  -- an interruption changes nothing, and a piece is taken whole or in part
  fun_induction takeExact dry n events with
  | case1 events => simp only [takeTape]
  | case2 n => rfl
  | case3 n rest ih => exact ih
  | case4 n e rest he =>
    simp only [tapeOf, List.flatMap_cons, ReadEvent.marks, if_neg he]
    rfl
  | case5 n piece rest hdrop result events hrest ih =>
    have hle : piece.length ≤ n + 1 := List.drop_eq_nil_iff.1 hdrop
    have hsplit : piece.length + (n + 1 - piece.length) = n + 1 := by omega
    have htake := takeTape_append dry piece (n + 1 - piece.length) (tapeOf rest)
    rw [hrest] at ih
    rw [hsplit, ← ih] at htake
    exact htake.symm
  | case6 n piece rest hmore =>
    have hle : n + 1 ≤ piece.length := by
      have := mt List.drop_eq_nil_iff.2 hmore
      omega
    exact (takeTape_take dry hle (tapeOf rest)).symm

theorem readExact_tape (r : Reader) (n : Nat) :
    ((r.readExact n).1, (r.readExact n).2.tape) = takeTape r.dry n r.tape :=
  takeExact_tape r.dry n r.events

/-- The tape begins with no byte: any read of some bytes fails and leaves the given tape. -/
def Stops (dry : Option IoError) (t : Tape) (e : IoError) (left : Tape) : Prop :=
  ∀ n, takeTape dry (n + 1) t = (.error e, left)

theorem stops_nil (dry : Option IoError) : Stops dry [] (dry.getD .unexpectedEnd) [] := fun _ => rfl

theorem stops_fault (dry : Option IoError) (e : IoError) (t : Tape) : Stops dry (.inr e :: t) e t :=
  fun _ => rfl

/-- Every tape has some bytes in front, and there it stops. -/
theorem exists_stop (dry : Option IoError) (t : Tape) :
    ∃ (bytes : Bytes) (later : Tape) (e : IoError) (left : Tape),
      t = bytes.map .inl ++ later ∧ Stops dry later e left := by
  induction t with
  | nil => exact ⟨[], [], _, [], rfl, stops_nil dry⟩
  | cons mark t ih =>
    cases mark with
    | inl b =>
      obtain ⟨bytes, later, e, left, rfl, hstop⟩ := ih
      exact ⟨b :: bytes, later, e, left, rfl, hstop⟩
    | inr e => exact ⟨[], _, e, t, rfl, stops_fault dry e t⟩

theorem Stops.takeTape {later : Tape} (h : Stops dry later e left) (hlt : bytes.length < n) :
    takeTape dry n (bytes.map .inl ++ later) = (.error e, left) := by
  obtain ⟨k, rfl⟩ := Nat.exists_eq_add_of_lt hlt
  rw [Nat.add_assoc, takeTape_append, h k]
  rfl

end Reader

namespace FrameCodec

open Reader

def readTape (c : FrameCodec) (dry : Option IoError) (t : Tape) : Except FrameError Bytes × Tape :=
  match takeTape dry lengthWidth t with
  | (.error e, t) => (.error (.io e), t)
  | (.ok field, t) =>
    match c.checkLength (ofLeBytes field) with
    | .error e => (.error e, t)
    | .ok () =>
      let (result, t) := takeTape dry (ofLeBytes field) t
      (result.mapError .io, t)

/-- How many bytes a read takes that meets no fault: those of the length field, and those of the
payload if its length is known and admitted. -/
def needed (c : FrameCodec) (bytes : Bytes) : Nat :=
  if bytes.length < lengthWidth ∨ c.maxPayload < lengthField bytes then lengthWidth
  else lengthWidth + lengthField bytes

variable {c : FrameCodec} {dry : Option IoError} {later left : Tape} {e : IoError}

theorem readResponse_tape (c : FrameCodec) (r : Reader) :
    ((c.readResponse r).1, (c.readResponse r).2.tape) = c.readTape r.dry r.tape ∧
      (c.readResponse r).2.dry = r.dry := by
  have hfield := r.readExact_tape lengthWidth
  have hdry : (r.readExact lengthWidth).2.dry = r.dry := rfl
  unfold readResponse readTape
  rcases h : r.readExact lengthWidth with ⟨e | field, r₁⟩ <;> rw [h] at hfield hdry
  · simp only [← hfield]
    exact ⟨trivial, hdry⟩
  · simp only [← hfield]
    cases c.checkLength (ofLeBytes field) with
    | error e => exact ⟨rfl, hdry⟩
    | ok _ =>
      have hbody := r₁.readExact_tape (ofLeBytes field)
      rw [show r₁.dry = r.dry from hdry] at hbody
      simp only [← hbody]
      exact ⟨trivial, hdry⟩

/-- A read does with the bytes before a stop what the stream decoder does with them. -/
theorem readTape_eq (h : Stops dry later e left) (bytes : Bytes) :
    c.readTape dry (bytes.map .inl ++ later) =
      match c.splitResponse bytes with
      | .error refusal => (.error refusal, (bytes.drop lengthWidth).map .inl ++ later)
      | .ok none => (.error (.io e), left)
      | .ok (some (payload, rest)) => (.ok payload, rest.map .inl ++ later) := by
  rcases short_or_word lengthWidth bytes with hshort | ⟨n, body, hn, rfl⟩
  · rw [splitResponse_of_short hshort, readTape, h.takeTape hshort]
  · have hfield := takeTape_length dry (leBytes lengthWidth n) (body.map .inl ++ later)
    have hdrop : (leBytes lengthWidth n ++ body).drop lengthWidth = body :=
      List.drop_left' (length_leBytes _ _)
    have hword : ofLeBytes (leBytes lengthWidth n) = n := by
      rw [ofLeBytes_leBytes, Nat.mod_eq_of_lt hn]
    rw [length_leBytes] at hfield
    rw [splitResponse_word hn, readTape, List.map_append, List.append_assoc, hfield, hdrop]
    simp only [hword, checkLength]
    by_cases hmax : c.maxPayload < n
    · simp only [if_pos hmax]
    · by_cases hbody : body.length < n
      · simp only [if_neg hmax, if_pos hbody, h.takeTape hbody]
        rfl
      · simp only [if_neg hmax, if_neg hbody, takeTape_take dry (Nat.le_of_not_lt hbody)]
        rfl

theorem splitResponse_eq_none {bytes : Bytes} :
    c.splitResponse bytes = .ok none ↔ bytes.length < c.needed bytes := by
  rcases short_or_word lengthWidth bytes with hshort | ⟨n, body, hn, rfl⟩
  · rw [splitResponse_of_short hshort, needed, if_pos (Or.inl hshort)]
    exact ⟨fun _ => hshort, fun _ => rfl⟩
  · have hfield : lengthField (leBytes lengthWidth n ++ body) = n := by
      rw [lengthField, List.take_left' (length_leBytes _ _), ofLeBytes_leBytes, Nat.mod_eq_of_lt hn]
    rw [splitResponse_word hn, needed, hfield, List.length_append, length_leBytes]
    -- a refused length needs no more bytes than the field itself
    by_cases hmax : c.maxPayload < n
    · rw [if_pos hmax, if_pos (Or.inr hmax)]
      constructor
      · intro h
        cases h
      · intro h
        omega
    · have hadmitted : ¬ (lengthWidth + body.length < lengthWidth ∨ c.maxPayload < n) := by omega
      rw [if_neg hmax, if_neg hadmitted]
      by_cases hbody : body.length < n
      · rw [if_pos hbody]
        exact ⟨fun _ => by omega, fun _ => rfl⟩
      · rw [if_neg hbody]
        constructor
        · intro h
          cases h
        · intro h
          omega

variable {r r' : Reader} {bytes : Bytes} {payload : Bytes}

theorem readResponse_of_tape (h : r.tape = bytes.map .inl ++ later)
    (hstop : Stops r.dry later e left) :
    ((c.readResponse r).1, (c.readResponse r).2.tape) =
      match c.splitResponse bytes with
      | .error refusal => (.error refusal, (bytes.drop lengthWidth).map .inl ++ later)
      | .ok none => (.error (.io e), left)
      | .ok (some (payload, rest)) => (.ok payload, rest.map .inl ++ later) := by
  rw [(c.readResponse_tape r).1, h, readTape_eq hstop]

theorem tape_of_readResponse (h : (c.readResponse r).1 = .ok payload) :
    r.tape = (responseFrame payload).map .inl ++ (c.readResponse r).2.tape := by
  obtain ⟨bytes, later, e, left, htape, hstop⟩ := exists_stop r.dry r.tape
  have hread := readResponse_of_tape (c := c) htape hstop
  rw [h] at hread
  rcases hs : c.splitResponse bytes with refusal | _ | ⟨p, rest⟩ <;> rw [hs] at hread
  · cases hread
  · cases hread
  · obtain ⟨hp, hrest⟩ := Prod.mk.inj hread
    obtain rfl := Except.ok.inj hp
    obtain ⟨-, rfl⟩ := splitResponse_eq_some.1 hs
    rw [htape, hrest, List.map_append, List.append_assoc]

theorem dry_readResponses (c : FrameCodec) (n : Nat) (r : Reader) :
    (c.readResponses n r).2.dry = r.dry := by
  induction n generalizing r with
  | zero => rfl
  | succ n ih => exact (ih _).trans (c.readResponse_tape r).2

theorem readResponses_congr (hdry : r.dry = r'.dry) (h : r.tape = r'.tape) (n : Nat) :
    (c.readResponses n r).1 = (c.readResponses n r').1 ∧
      (c.readResponses n r).2.tape = (c.readResponses n r').2.tape := by
  -- each read depends on nothing but the tape that it finds
  induction n generalizing r r' with
  | zero => exact ⟨rfl, h⟩
  | succ n ih =>
    obtain ⟨hread, hend⟩ := c.readResponse_tape r
    obtain ⟨hread', hend'⟩ := c.readResponse_tape r'
    rw [hdry, h, ← hread'] at hread
    obtain ⟨hresult, htape⟩ := Prod.mk.inj hread
    obtain ⟨hresults, hleft⟩ := ih (hend.trans (hdry.trans hend'.symm)) htape
    refine ⟨?_, hleft⟩
    simp only [readResponses, hresult, hresults]

theorem tape_of_readResponses {payloads : List Bytes} {n : Nat}
    (h : (c.readResponses n r).1 = payloads.map .ok) :
    r.tape = (payloads.flatMap responseFrame).map .inl ++ (c.readResponses n r).2.tape := by
  induction n generalizing r payloads with
  | zero =>
    obtain rfl : payloads = [] := List.map_eq_nil_iff.1 h.symm
    rfl
  | succ n ih =>
    obtain ⟨payload, rest, rfl, hpayload, hpayloads⟩ := List.map_eq_cons_iff.1 h.symm
    have hfirst : (c.readResponse r).1 = .ok payload := hpayload.symm
    have hrest : (c.readResponses n (c.readResponse r).2).1 = rest.map .ok := hpayloads.symm
    rw [tape_of_readResponse hfirst, ih hrest, List.flatMap_cons, List.map_append,
      List.append_assoc]
    rfl

theorem bytes_readResponses (h : r.tape = bytes.map .inl) (n : Nat) :
    ∃ rest : Bytes, (c.readResponses n r).2.tape = rest.map .inl := by
  induction n generalizing r bytes with
  | zero => exact ⟨bytes, h⟩
  | succ n ih =>
    have hread := congrArg Prod.snd
      (readResponse_of_tape (c := c) (h.trans (List.append_nil _).symm) (stops_nil r.dry))
    rcases hs : c.splitResponse bytes with refusal | _ | ⟨p, rest⟩ <;> rw [hs] at hread
    · exact ih (hread.trans (List.append_nil _))
    · have hempty : (c.readResponse r).2.tape = ([] : Bytes).map .inl := hread
      exact ih hempty
    · exact ih (hread.trans (List.append_nil _))

/-- A blocking read came to what the stream decoder makes of the unread bytes, and left what is due: the
rest behind a frame, all but the length field behind a refusal, and nothing where bytes are missing. -/
structure Agrees (c : FrameCodec) (unread : Bytes) (result : Except FrameError Bytes)
    (left : Bytes) : Prop where
  ok : ∀ payload rest, result = .ok payload ∧ left = rest ↔
    c.splitResponse unread = .ok (some (payload, rest))
  tooLarge : ∀ n max, result = .error (.tooLarge n max) ↔
    c.splitResponse unread = .error (.tooLarge n max)
  behindField : ∀ n max, result = .error (.tooLarge n max) →
    ∃ field : Bytes, field.length = lengthWidth ∧ unread = field ++ left
  ended : result = .error (.io .unexpectedEnd) ↔ c.splitResponse unread = .ok none
  atEnd : result = .error (.io .unexpectedEnd) → left = []

theorem agrees_of_error {refusal : FrameError} (hs : c.splitResponse bytes = .error refusal) :
    Agrees c bytes (.error refusal) (bytes.drop lengthWidth) := by
  obtain ⟨n, -, rfl⟩ := tooLarge_of_splitResponse hs
  have hfield : lengthWidth ≤ bytes.length := by
    by_contra hshort
    rw [splitResponse_of_short (by omega)] at hs
    cases hs
  constructor
  · simp [hs]
  · simp [hs]
  · intro _ _ _
    refine ⟨bytes.take lengthWidth, ?_, (List.take_append_drop _ _).symm⟩
    rw [List.length_take, Nat.min_eq_left hfield]
  · simp [hs]
  · simp

theorem agrees_of_none (hs : c.splitResponse bytes = .ok none) :
    Agrees c bytes (.error (.io .unexpectedEnd)) [] := by
  constructor <;> simp [hs]

theorem agrees_of_some {rest : Bytes} (hs : c.splitResponse bytes = .ok (some (payload, rest))) :
    Agrees c bytes (.ok payload) rest := by
  constructor <;> simp [hs]

/-- Without faults, the end of the source stands for the bytes that are missing. -/
theorem agrees_of_bytes (h : r.tape = bytes.map .inl) (hdry : r.dry = none) :
    Agrees c bytes (c.readResponse r).1 (c.readResponse r).2.unread := by
  have hread := readResponse_of_tape (c := c) (h.trans (List.append_nil _).symm) (stops_nil r.dry)
  rw [hdry] at hread
  rcases hs : c.splitResponse bytes with refusal | _ | ⟨p, rest⟩ <;> rw [hs] at hread <;>
    obtain ⟨hresult, htape⟩ := Prod.mk.inj hread
  · rw [hresult, Reader.unread_of_tape (htape.trans (List.append_nil _))]
    exact agrees_of_error hs
  · have hempty : (c.readResponse r).2.tape = ([] : Bytes).map .inl := htape
    rw [hresult, Reader.unread_of_tape hempty]
    exact agrees_of_none hs
  · rw [hresult, Reader.unread_of_tape (htape.trans (List.append_nil _))]
    exact agrees_of_some hs

/-- A fault is met exactly if it comes before the bytes that are needed; else it stays where it is. -/
theorem readResponse_of_fault (h : r.tape = bytes.map .inl ++ .inr e :: later) :
    ((c.readResponse r).1 = .error (.io e) ↔ bytes.length < c.needed bytes) ∧
      ((c.readResponse r).1 = .error (.io e) → (c.readResponse r).2.tape = later) ∧
      (c.needed bytes ≤ bytes.length → ∃ rest : Bytes,
        (c.readResponse r).2.tape = rest.map .inl ++ .inr e :: later ∧
          Agrees c bytes (c.readResponse r).1 rest) := by
  have hread := readResponse_of_tape (c := c) h (stops_fault r.dry e later)
  rw [← splitResponse_eq_none, ← Nat.not_lt, ← splitResponse_eq_none]
  rcases hs : c.splitResponse bytes with refusal | _ | ⟨p, rest⟩ <;> rw [hs] at hread <;>
    obtain ⟨hresult, htape⟩ := Prod.mk.inj hread <;> rw [hresult, htape]
  · obtain ⟨n, -, rfl⟩ := tooLarge_of_splitResponse hs
    refine ⟨by simp, by simp, fun _ => ⟨_, rfl, agrees_of_error hs⟩⟩
  · exact ⟨by simp, fun _ => rfl, fun hne => absurd rfl hne⟩
  · exact ⟨by simp, by simp, fun _ => ⟨rest, rfl, agrees_of_some hs⟩⟩

/-- Blocking reads of any source, one after another. Reads that succeed have taken just their frames.
The next one then agrees with the stream decoder on the unread bytes, if the source only interrupts.
Another fault is returned, and consumed, exactly if fewer bytes come before it than the read needs; else
the read agrees with the stream decoder on these bytes, and the fault still stands behind them. The
results depend on the bytes and faults alone, not on how the bytes are cut. -/
theorem readResponse_agrees (c : FrameCodec) (events : List ReadEvent) (n : Nat) :
    let source : Reader := { events }
    let r := (c.readResponses n source).2
    let next := c.readResponse r
    (∀ payloads : List Bytes, (c.readResponses n source).1 = payloads.map .ok →
      source.tape = (payloads.flatMap responseFrame).map .inl ++ r.tape) ∧
    ((∀ event ∈ events, event.Calm) → Agrees c r.unread next.1 next.2.unread) ∧
    (∀ (unread : Bytes) (e : IoError) (later : Tape),
      r.tape = unread.map .inl ++ .inr e :: later →
      (next.1 = .error (.io e) ↔ unread.length < c.needed unread) ∧
      (next.1 = .error (.io e) → next.2.tape = later) ∧
      (c.needed unread ≤ unread.length → ∃ rest : Bytes,
        next.2.tape = rest.map .inl ++ .inr e :: later ∧ Agrees c unread next.1 rest)) ∧
    ∀ other : Reader, other.dry = none → other.tape = source.tape →
      (c.readResponses n other).1 = (c.readResponses n source).1 ∧
        (c.readResponses n other).2.tape = r.tape := by
  intro source r next
  have hdry : r.dry = none := c.dry_readResponses n source
  refine ⟨fun payloads => tape_of_readResponses, ?_, fun unread e later => readResponse_of_fault, ?_⟩
  · intro hcalm
    obtain ⟨rest, hrest⟩ := bytes_readResponses (c := c) (source.tape_of_calm hcalm) n
    rw [Reader.unread_of_tape hrest]
    exact agrees_of_bytes hrest hdry
  · intro other hother htape
    exact readResponses_congr hother htape n

end FrameCodec

end SensorLink
