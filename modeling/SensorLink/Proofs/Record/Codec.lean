import Mathlib.Algebra.Group.Nat.Defs
import SensorLink.Record.File

namespace SensorLink

namespace Record

inductive Misfit (bytes : Bytes) : RecordFault → Prop where
  | lengthCut (short : bytes.length < lengthWidth) : Misfit bytes (.lengthCut bytes.length)
  | lengthDiffers (declared : Nat) (body : Bytes) (fits : declared < 2 ^ 32)
      (split : bytes = leBytes lengthWidth declared ++ body) (differs : body.length ≠ declared) :
      Misfit bytes (.lengthDiffers declared body.length)

variable {record other state state' body : Bytes} {n : Nat} {fault : RecordFault}

theorem encode_eq_ok : encode state = .ok record ↔
    state.length < 2 ^ 32 ∧ record = leBytes lengthWidth state.length ++ state := by
  by_cases hfit : state.length < 2 ^ 32
  · have hok : encode state = .ok (leBytes lengthWidth state.length ++ state) := if_pos hfit
    rw [hok, Except.ok.injEq, eq_comm]
    exact (and_iff_right hfit).symm
  · have herror : encode state = .error (.lengthTooWide state.length) := if_neg hfit
    rw [herror]
    constructor
    · intro h
      cases h
    · rintro ⟨hlt, -⟩
      exact absurd hlt hfit

theorem decode_of_short (h : record.length < lengthWidth) :
    decode record = .error (.lengthCut record.length) := if_pos h

theorem decode_word (hn : n < 2 ^ 32) (body : Bytes) :
    decode (leBytes lengthWidth n ++ body) =
      if body.length = n then .ok body else .error (.lengthDiffers n body.length) := by
  have hlong : ¬ (leBytes lengthWidth n ++ body).length < lengthWidth := by
    rw [List.length_append, length_leBytes]
    omega
  have hword : n % wordCount lengthWidth = n := Nat.mod_eq_of_lt hn
  rw [decode, if_neg hlong, List.take_left' (length_leBytes _ _), ofLeBytes_leBytes, hword,
    List.drop_left' (length_leBytes _ _)]

theorem decode_eq_ok_iff : decode record = .ok state ↔ encode state = .ok record := by
  rw [encode_eq_ok]
  constructor
  · intro h
    rcases short_or_word lengthWidth record with hshort | ⟨n, body, hn, rfl⟩
    · rw [decode_of_short hshort] at h
      cases h
    · rw [decode_word hn] at h
      split at h
      · rename_i hlen
        cases h
        rw [hlen]
        exact ⟨hn, rfl⟩
      · cases h
  · rintro ⟨hfit, rfl⟩
    rw [decode_word hfit, if_pos rfl]

theorem decode_of_encode (h : encode state = .ok record) : decode record = .ok state :=
  decode_eq_ok_iff.2 h

theorem decode_eq_error_iff : decode record = .error fault ↔ Misfit record fault := by
  constructor
  · intro h
    rcases short_or_word lengthWidth record with hshort | ⟨n, body, hn, rfl⟩
    · rw [decode_of_short hshort] at h
      cases h
      exact .lengthCut hshort
    · rw [decode_word hn] at h
      split at h
      · cases h
      · rename_i hlen
        cases h
        exact .lengthDiffers n body hn rfl hlen
  · intro h
    cases h with
    | lengthCut short => exact decode_of_short short
    | lengthDiffers declared body fits split differs =>
      rw [split, decode_word fits, if_neg differs]

/-- The length field tells where a record ends, whatever follows. -/
theorem encode_append_inj {after after' : Bytes} (h : encode state = .ok record)
    (h' : encode state' = .ok other) (heq : record ++ after = other ++ after') : record = other := by
  obtain ⟨hfit, rfl⟩ := encode_eq_ok.1 h
  obtain ⟨hfit', rfl⟩ := encode_eq_ok.1 h'
  simp only [List.append_assoc] at heq
  obtain ⟨hword, htail⟩ := List.append_inj heq (by rw [length_leBytes, length_leBytes])
  -- equal length fields make the states end at the same place
  have hlen : state.length = state'.length := by
    have hvalue := congrArg ofLeBytes hword
    rw [ofLeBytes_leBytes, ofLeBytes_leBytes] at hvalue
    exact (Nat.mod_eq_of_lt hfit).symm.trans (hvalue.trans (Nat.mod_eq_of_lt hfit'))
  rw [hword, (List.append_inj htail hlen).1]

theorem eq_of_decode_of_isPrefix (h : decode record = .ok state) (h' : decode other = .ok state')
    (hp : other <+: record ∨ record <+: other) : other = record := by
  rw [decode_eq_ok_iff] at h h'
  rcases hp with ⟨after, hafter⟩ | ⟨after, hafter⟩
  · exact encode_append_inj h' h (hafter.trans (List.append_nil record).symm)
  · exact encode_append_inj h' h ((List.append_nil other).trans hafter.symm)

/-- Encoding and decoding are inverse to each other between the states shorter than 2^32 bytes and the
byte strings that decoding accepts. A proper beginning or continuation of an accepted one is refused,
and whatever is refused reads as a corrupt record. -/
theorem codec_bijective (record state : Bytes) :
    ((encode state >>= decode) = .ok state ↔ state.length < 2 ^ 32) ∧
    (decode record = .ok state ↔ encode state = .ok record) ∧
    (decode record = .ok state → ∀ other, other <+: record ∨ record <+: other → other ≠ record →
      ∃ fault, decode other = .error fault ∧ Misfit other fault) ∧
    ((∀ state, encode state ≠ .ok record) →
      ∃ fault, decode record = .error fault ∧ Misfit record fault ∧
        ∀ (t : FileTree) (p : Path), t.read p = .ok record →
          readAt t p = .error (.corruptRecord fault)) := by
  refine ⟨?_, decode_eq_ok_iff, ?_, ?_⟩
  · constructor
    · intro h
      cases hrecord : encode state with
      | error fault =>
        rw [hrecord] at h
        cases h
      | ok record => exact (encode_eq_ok.1 hrecord).1
    · intro hfit
      have hrecord := encode_eq_ok.2 ⟨hfit, rfl⟩
      rw [hrecord]
      exact decode_of_encode hrecord
  -- of two accepted byte strings neither begins with the other
  · intro h other hp hne
    cases hother : decode other with
    | ok state' => exact absurd (eq_of_decode_of_isPrefix h hother hp) hne
    | error fault => exact ⟨fault, rfl, decode_eq_error_iff.1 hother⟩
  · intro hnone
    cases hrecord : decode record with
    | ok state => exact absurd (decode_eq_ok_iff.1 hrecord) (hnone state)
    | error fault =>
      refine ⟨fault, rfl, decode_eq_error_iff.1 hrecord, ?_⟩
      intro t p hread
      simp only [readAt, hread, hrecord]

/-- A record of one byte, the same without that byte or with one more, and half a length field. -/
theorem codec_bijective_one_byte :
    (encode [7] >>= decode) = .ok [7] ∧
    (∃ fault, decode [1, 0, 0, 0] = .error fault ∧ Misfit [1, 0, 0, 0] fault) ∧
    (∃ fault, decode [1, 0, 0, 0, 7, 7] = .error fault ∧ Misfit [1, 0, 0, 0, 7, 7] fault) ∧
    ∃ fault, readAt (FileTree.put {} ["half"] (.file [1, 0])) ⟨["half"]⟩ =
      .error (.corruptRecord fault) := by
  obtain ⟨hround, -, hother, -⟩ := codec_bijective [1, 0, 0, 0, 7] [7]
  have hone : decode [1, 0, 0, 0, 7] = .ok [7] := rfl
  refine ⟨hround.2 (by decide), hother hone _ (Or.inl ⟨[7], rfl⟩) (by decide),
    hother hone _ (Or.inr ⟨[7], rfl⟩) (by decide), ?_⟩
  have hnone : ∀ state, encode state ≠ .ok [1, 0] := by
    intro state h
    have hlen := congrArg List.length (encode_eq_ok.1 h).2
    rw [List.length_append, length_leBytes] at hlen
    simp [lengthWidth] at hlen
    omega
  obtain ⟨fault, -, -, hread⟩ := (codec_bijective [1, 0] []).2.2.2 hnone
  exact ⟨fault, hread _ _ rfl⟩

end Record

end SensorLink
