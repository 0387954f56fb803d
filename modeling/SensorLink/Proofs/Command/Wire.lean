import Mathlib.Tactic.SplitIfs
import SensorLink.Command

namespace SensorLink.Command

variable {n : UInt8} {c d : Command} {args args' bytes : Bytes} {e : CommandError}

theorem ofId_eq_ok : ofId n = .ok c ↔ c.id = n := by
  constructor
  · intro h
    unfold ofId at h
    split_ifs at h with h₀ h₁ h₂ h₃ h₄ h₅ <;> cases h <;> exact Eq.symm (by assumption)
  · rintro rfl
    exact ofId_id c

theorem of_ofId_eq_error (h : ofId n = .error e) : e = .unknown n ∧ 5 < n := by
  unfold ofId at h
  split_ifs at h
  cases h
  refine ⟨rfl, ?_⟩
  grind

theorem id_inj : c.id = d.id ↔ c = d :=
  ⟨fun h => Except.ok.inj ((ofId_eq_ok.2 h).symm.trans (ofId_id d)), congrArg id⟩

/-- What a response can be: nothing, a command, or bytes that begin with the id of none. -/
inductive WireForm : Bytes → Prop where
  | empty : WireForm []
  | command (c : Command) (args : Bytes) : WireForm (c.encode args)
  | stray (n : UInt8) (rest : Bytes) (foreign : ∀ c : Command, c.id ≠ n) : WireForm (n :: rest)

theorem wireForm (bytes : Bytes) : WireForm bytes := by
  cases bytes with
  | nil => exact .empty
  | cons n rest =>
    cases hid : ofId n with
    | ok c =>
      rw [← ofId_eq_ok.1 hid]
      exact .command c rest
    | error e =>
      refine .stray n rest ?_
      intro c hc
      rw [ofId_eq_ok.2 hc] at hid
      cases hid

theorem decode_encode (c : Command) (args : Bytes) : decode (c.encode args) = .ok (c, args) := by
  rw [encode, decode, ofId_id, Except.map]

theorem decode_stray (foreign : ∀ c : Command, c.id ≠ n) (rest : Bytes) :
    decode (n :: rest) = .error (.unknown n) := by
  cases hid : ofId n with
  | ok c => exact absurd (ofId_eq_ok.1 hid) (foreign c)
  | error e => rw [decode, hid, Except.map, (of_ofId_eq_error hid).1]

theorem encode_inj : c.encode args = d.encode args' ↔ (c, args) = (d, args') := by
  constructor
  · intro h
    have hread := congrArg decode h
    rw [decode_encode, decode_encode] at hread
    exact Except.ok.inj hread
  · intro h
    cases h
    rfl

theorem decode_eq_ok : decode bytes = .ok (c, args) ↔
    bytes = c.encode args ∨ bytes = [] ∧ (c, args) = (.noCommand, []) := by
  cases wireForm bytes with
  | empty =>
    constructor
    · intro h
      cases h
      exact Or.inr ⟨rfl, rfl⟩
    · rintro (h | ⟨-, h⟩)
      · cases h
      · rw [h]
        rfl
  | command d rest =>
    have hne : d.encode rest ≠ [] := List.cons_ne_nil _ _
    rw [decode_encode, Except.ok.injEq, encode_inj, eq_comm, or_iff_left fun h => hne h.1]
  | stray n rest foreign =>
    rw [decode_stray foreign]
    constructor
    · intro h
      cases h
    · rintro (h | ⟨h, -⟩)
      · exact absurd (List.cons.inj h).1.symm (foreign c)
      · cases h

theorem decode_eq_unknown : decode bytes = .error (.unknown n) ↔
    bytes.head? = some n ∧ ∀ c : Command, c.id ≠ n := by
  cases wireForm bytes with
  | empty => simp [decode]
  | command d rest =>
    rw [decode_encode]
    constructor
    · intro h
      cases h
    · rintro ⟨hhead, foreign⟩
      exact absurd (Option.some.inj hhead) (foreign d)
  | stray m rest foreign =>
    rw [decode_stray foreign, List.head?_cons, Except.error.injEq, CommandError.unknown.injEq,
      Option.some.injEq]
    constructor
    · rintro rfl
      exact ⟨rfl, foreign⟩
    · exact And.left

/-- A response reads as a command with its arguments exactly if it is what is written for them, or is
empty and stands for no command. It is refused exactly if it begins with a byte that is the id of no
command, and the refusal names that byte. Bytes that are not empty read as the command whose id comes
first, with all that follows for its arguments. So whatever is written reads back, and nothing else is
written the same. -/
theorem reads_encodings (bytes : Bytes) (c : Command) (args : Bytes) :
    (decode bytes = .ok (c, args) ↔
      bytes = c.encode args ∨ bytes = [] ∧ (c, args) = (.noCommand, [])) ∧
    (∀ n, decode bytes = .error (.unknown n) ↔
      bytes.head? = some n ∧ ∀ d : Command, d.id ≠ n) ∧
    (∀ n rest, decode (n :: rest) = .ok (c, args) ↔ n = c.id ∧ rest = args) ∧
    decode (c.encode args) = .ok (c, args) ∧
    ∀ d args', c.encode args = d.encode args' ↔ (c, args) = (d, args') := by
  refine ⟨decode_eq_ok, fun n => decode_eq_unknown, ?_, decode_encode c args, ?_⟩
  · intro n rest
    rw [decode_eq_ok, encode, List.cons.injEq]
    simp
  · intro d args'
    exact encode_inj

end SensorLink.Command
