import Mathlib.Data.Nat.Digits.Lemmas
import Mathlib.Data.String.Basic
import SensorLink.Text.Number

namespace SensorLink.Text

/-- The digits of base sixteen in ascending order. -/
def hexAlphabet : List Char :=
  ['0', '1', '2', '3', '4', '5', '6', '7', '8', '9', 'A', 'B', 'C', 'D', 'E', 'F']

/-- A digit of either case. -/
def IsHexDigit (c : Char) : Prop := c ∈ hexAlphabet ++ hexAlphabet.map Char.toLower

instance : DecidablePred IsHexDigit := fun c =>
  inferInstanceAs (Decidable (c ∈ hexAlphabet ++ hexAlphabet.map Char.toLower))

def digitRank (c : Char) : Nat := hexAlphabet.idxOf c.toUpper

/-- The number that digits write, most significant first. -/
def hexValue (ds : List Char) : Nat := Nat.ofDigits 16 (ds.reverse.map digitRank)

variable {c : Char} {ds rest : List Char} {d n acc bound : Nat}

/-- What holds of each of the digits in turn holds of any. -/
theorem IsHexDigit.all {p : Char → Prop} [DecidablePred p] (h : IsHexDigit c)
    (hp : (hexAlphabet ++ hexAlphabet.map Char.toLower).all (fun c => decide (p c)) = true) : p c :=
  of_decide_eq_true (List.all_eq_true.1 hp c h)

theorem digitValue?_of_isHexDigit (h : IsHexDigit c) : digitValue? 16 c = some (digitRank c) :=
  h.all (p := fun c => digitValue? 16 c = some (digitRank c)) (by decide)

theorem isHexDigit_of_code (h : 48 ≤ c.toNat ∧ c.toNat ≤ 57 ∨ 65 ≤ c.toNat ∧ c.toNat ≤ 70 ∨
    97 ≤ c.toNat ∧ c.toNat ≤ 102) : IsHexDigit c := by
  have hcodes : (hexAlphabet ++ hexAlphabet.map Char.toLower).map Char.toNat =
      [48, 49, 50, 51, 52, 53, 54, 55, 56, 57, 65, 66, 67, 68, 69, 70,
        48, 49, 50, 51, 52, 53, 54, 55, 56, 57, 97, 98, 99, 100, 101, 102] := by decide
  have hmem : c.toNat ∈ (hexAlphabet ++ hexAlphabet.map Char.toLower).map Char.toNat := by
    simp only [hcodes, List.mem_cons, List.not_mem_nil, or_false]
    omega
  obtain ⟨c', hc', heq⟩ := List.mem_map.1 hmem
  rw [Char.toNat_inj.1 heq] at hc'
  exact hc'

theorem isHexDigit_of_digitValue? (h : digitValue? 16 c = some d) : IsHexDigit c := by
  have hval : c.val.toNat = c.toNat := rfl
  simp only [digitValue?, Char.le_def, UInt32.le_iff_toNat_le, hval] at h
  split at h
  · rename_i hdecimal
    exact isHexDigit_of_code (Or.inl hdecimal)
  · split at h
    · rename_i hlower
      exact isHexDigit_of_code (Or.inr (Or.inr hlower))
    · split at h
      · rename_i hupper
        exact isHexDigit_of_code (Or.inr (Or.inl hupper))
      · cases h

theorem digitRank_lt (h : IsHexDigit c) : digitRank c < 16 :=
  h.all (p := fun c => digitRank c < 16) (by decide)

theorem utf8Size_of_isHexDigit (h : IsHexDigit c) : c.utf8Size = 1 :=
  h.all (p := fun c => c.utf8Size = 1) (by decide)

theorem isHexDigit_of_mem (h : c ∈ hexAlphabet) : IsHexDigit c := List.mem_append_left _ h

theorem digitRank_toLower (h : c ∈ hexAlphabet) : digitRank c.toLower = digitRank c :=
  (isHexDigit_of_mem h).all (p := fun c => digitRank c.toLower = digitRank c) (by decide)

theorem hexValue_cons (c : Char) (rest : List Char) :
    hexValue (c :: rest) = digitRank c * 16 ^ rest.length + hexValue rest := by
  rw [hexValue, List.reverse_cons, List.map_append, Nat.ofDigits_append, List.length_map,
    List.length_reverse, List.map_singleton, Nat.ofDigits_singleton, Nat.add_comm, Nat.mul_comm]
  rfl

theorem hexValue_lt (h : ∀ c ∈ ds, IsHexDigit c) : hexValue ds < 16 ^ ds.length := by
  have hlt : hexValue ds < 16 ^ (ds.reverse.map digitRank).length := by
    apply Nat.ofDigits_lt_base_pow_length (by decide)
    intro d hd
    obtain ⟨c, hc, rfl⟩ := List.mem_map.1 hd
    exact digitRank_lt (h c (List.mem_reverse.1 hc))
  rwa [List.length_map, List.length_reverse] at hlt

theorem hexValue_replicate_zero (k : Nat) (ds : List Char) :
    hexValue (List.replicate k '0' ++ ds) = hexValue ds := by
  induction k with
  | zero => rfl
  | succ k ih =>
    have hzero : digitRank '0' = 0 := by decide
    rw [List.replicate_succ, List.cons_append, hexValue_cons, hzero, Nat.zero_mul, Nat.zero_add, ih]

theorem readDigits_of_room (h : ∀ c ∈ ds, IsHexDigit c) (hroom : (acc + 1) * 16 ^ ds.length ≤ bound) :
    readDigits 16 bound acc ds = .ok (acc * 16 ^ ds.length + hexValue ds) := by
  induction ds generalizing acc with
  | nil => simp [readDigits, hexValue]
  | cons c rest ih =>
    have hc := h c List.mem_cons_self
    have hrank := digitRank_lt hc
    -- the room for all numbers of this many digits covers those that begin with `c`
    have hnext : (acc * 16 + digitRank c + 1) * 16 ^ rest.length ≤ bound := by
      calc (acc * 16 + digitRank c + 1) * 16 ^ rest.length
          ≤ ((acc + 1) * 16) * 16 ^ rest.length := Nat.mul_le_mul_right _ (by omega)
        _ = (acc + 1) * 16 ^ (c :: rest).length := by rw [List.length_cons, pow_succ]; ring
        _ ≤ bound := hroom
    have hlt : acc * 16 + digitRank c < bound := by
      have hpos : 1 ≤ 16 ^ rest.length := Nat.one_le_pow _ _ (by decide)
      have := Nat.mul_le_mul_left (acc * 16 + digitRank c + 1) hpos
      omega
    rw [readDigits, digitValue?_of_isHexDigit hc]
    simp only [if_pos hlt]
    rw [ih (fun c' hc' => h c' (List.mem_cons_of_mem _ hc')) hnext, hexValue_cons, List.length_cons,
      pow_succ]
    congr 1
    ring

theorem isHexDigit_of_readDigits (h : readDigits 16 bound acc ds = .ok n) : ∀ c ∈ ds, IsHexDigit c := by
  induction ds generalizing acc with
  | nil => exact fun c hc => absurd hc List.not_mem_nil
  | cons c rest ih =>
    rw [readDigits] at h
    split at h
    · cases h
    · rename_i d hd
      dsimp only at h
      split at h
      · intro c' hc'
        rcases List.mem_cons.1 hc' with rfl | hrest
        · exact isHexDigit_of_digitValue? hd
        · exact ih h c' hrest
      · cases h

def plusSign (plus : Bool) : List Char := if plus then ['+'] else []

theorem readUnsigned_plusSign (plus : Bool) (hne : ds ≠ []) (h : ∀ c ∈ ds, IsHexDigit c) :
    readUnsigned 16 bound (plusSign plus ++ ds) = readDigits 16 bound 0 ds := by
  obtain ⟨c, rest, rfl⟩ := List.exists_cons_of_ne_nil hne
  cases plus with
  | true => rfl
  | false =>
    have hc : c ≠ '+' := by
      rintro rfl
      exact absurd (h '+' List.mem_cons_self) (by decide)
    simp [plusSign, readUnsigned, hc]

theorem mem_plusSign_append {plus : Bool} (h : ∀ c ∈ ds, IsHexDigit c) (hc : c ∈ plusSign plus ++ ds) :
    c = '+' ∨ IsHexDigit c := by
  rcases List.mem_append.1 hc with hsign | hdigit
  · cases plus with
    | false => exact absurd hsign List.not_mem_nil
    | true => exact Or.inl (List.mem_singleton.1 hsign)
  · exact Or.inr (h c hdigit)

theorem utf8Len_eq_length {s : List Char} (h : ∀ c ∈ s, c.utf8Size = 1) :
    String.utf8Len s = s.length := by
  induction s with
  | nil => rfl
  | cons c rest ih =>
    rw [String.utf8Len_cons, ih fun c' hc' => h c' (List.mem_cons_of_mem _ hc'),
      h c List.mem_cons_self, List.length_cons]

theorem utf8ByteSize_plusSign_append {plus : Bool} (h : ∀ c ∈ ds, IsHexDigit c) :
    (String.ofList (plusSign plus ++ ds)).utf8ByteSize = (plusSign plus ++ ds).length := by
  rw [String.utf8ByteSize_ofList]
  apply utf8Len_eq_length
  intro c hc
  rcases mem_plusSign_append h hc with rfl | hdigit
  · rfl
  · exact utf8Size_of_isHexDigit hdigit

/-- A number that was read has digits, behind a plus sign or none. -/
theorem plusSign_of_readUnsigned {s : List Char} (h : readUnsigned 16 bound s = .ok n) :
    ∃ (plus : Bool) (ds : List Char), s = plusSign plus ++ ds ∧ ds ≠ [] ∧ ∀ c ∈ ds, IsHexDigit c := by
  unfold readUnsigned at h
  split at h
  · cases h
  · cases h
  · rename_i rest hne
    exact ⟨true, rest, rfl, hne, isHexDigit_of_readDigits h⟩
  · rename_i hne _ _
    exact ⟨false, s, rfl, hne, isHexDigit_of_readDigits h⟩

theorem hexDigits_eq (n : Nat) : hexDigits n = if n = 0 then [0] else (Nat.digits 16 n).reverse := by
  induction n using hexDigits.induct with
  | case1 n hlt =>
    rw [hexDigits, if_pos hlt]
    by_cases hzero : n = 0
    · rw [if_pos hzero, hzero]
    · rw [if_neg hzero, Nat.digits_of_lt 16 n hzero hlt, List.reverse_singleton]
  | case2 n hge ih =>
    have hquot : n / 16 ≠ 0 := by omega
    have hdigits : Nat.digits 16 n = n % 16 :: Nat.digits 16 (n / 16) :=
      Nat.digits_def' (by decide) (by omega)
    rw [hexDigits, if_neg hge, ih, if_neg hquot, if_neg (by omega), hdigits, List.reverse_cons]

theorem hexDigits_zero : hexDigits 0 = [0] := (hexDigits_eq 0).trans (if_pos rfl)

theorem hexDigits_of_pos (h : 0 < n) : hexDigits n = (Nat.digits 16 n).reverse := by
  rw [hexDigits_eq, if_neg (Nat.ne_of_gt h)]

theorem hexDigits_ne_nil (n : Nat) : hexDigits n ≠ [] := by
  rcases Nat.eq_zero_or_pos n with rfl | hpos
  · simp [hexDigits_zero]
  · rw [hexDigits_of_pos hpos, ne_eq, List.reverse_eq_nil_iff]
    exact Nat.digits_ne_nil_iff_ne_zero.2 (Nat.ne_of_gt hpos)

theorem lt_of_mem_hexDigits (h : d ∈ hexDigits n) : d < 16 := by
  rcases Nat.eq_zero_or_pos n with rfl | hpos
  · rw [hexDigits_zero, List.mem_singleton] at h
    omega
  · rw [hexDigits_of_pos hpos, List.mem_reverse] at h
    exact Nat.digits_lt_base (by decide) h

theorem ofDigits_hexDigits (n : Nat) : Nat.ofDigits 16 (hexDigits n).reverse = n := by
  rcases Nat.eq_zero_or_pos n with rfl | hpos
  · rw [hexDigits_zero, List.reverse_singleton, Nat.ofDigits_singleton]
  · rw [hexDigits_of_pos hpos, List.reverse_reverse, Nat.ofDigits_digits]

theorem length_hexDigits_le {k : Nat} (hk : 0 < k) (h : n < 16 ^ k) : (hexDigits n).length ≤ k := by
  rcases Nat.eq_zero_or_pos n with rfl | hpos
  · rw [hexDigits_zero]
    exact hk
  · rw [hexDigits_of_pos hpos, List.length_reverse]
    exact (Nat.digits_length_le_iff (by decide) n).2 h

theorem upperHexDigit_of_lt (h : d < 16) :
    upperHexDigit d ∈ hexAlphabet ∧ digitRank (upperHexDigit d) = d := by
  have hall : ∀ d < 16, upperHexDigit d ∈ hexAlphabet ∧ digitRank (upperHexDigit d) = d := by decide
  exact hall d h

theorem mem_hexAlphabet_of_mem_upperHex (h : c ∈ upperHex n) : c ∈ hexAlphabet := by
  obtain ⟨d, hd, rfl⟩ := List.mem_map.1 h
  exact (upperHexDigit_of_lt (lt_of_mem_hexDigits hd)).1

/-- Only zero is written with a leading zero. -/
theorem eq_zero_of_head?_upperHex (h : (upperHex n).head? = some '0') : n = 0 := by
  by_contra hne
  have hdigits : Nat.digits 16 n ≠ [] := Nat.digits_ne_nil_iff_ne_zero.2 hne
  rw [upperHex, hexDigits_of_pos (Nat.pos_of_ne_zero hne), List.head?_map, List.head?_reverse,
    List.getLast?_eq_getLast_of_ne_nil hdigits] at h
  have hlt := Nat.digits_lt_base (by decide) (List.getLast_mem hdigits)
  have hrank := congrArg digitRank (Option.some.inj h)
  rw [(upperHexDigit_of_lt hlt).2] at hrank
  exact Nat.getLast_digit_ne_zero 16 hne hrank

theorem hexValue_upperHex (n : Nat) : hexValue (upperHex n) = n := by
  have hranks : (upperHex n).reverse.map digitRank = (hexDigits n).reverse := by
    rw [upperHex, ← List.map_reverse, List.map_map]
    refine (List.map_congr_left fun d hd => ?_).trans (List.map_id _)
    exact (upperHexDigit_of_lt (lt_of_mem_hexDigits (List.mem_reverse.1 hd))).2
  rw [hexValue, hranks, ofDigits_hexDigits]

theorem upperHex_inj {m : Nat} (h : upperHex m = upperHex n) : m = n := by
  rw [← hexValue_upperHex m, h, hexValue_upperHex]

theorem hexValue_map_toLower (h : ∀ c ∈ ds, c ∈ hexAlphabet) :
    hexValue (ds.map Char.toLower) = hexValue ds := by
  have hranks : (ds.map Char.toLower).reverse.map digitRank = ds.reverse.map digitRank := by
    rw [← List.map_reverse, List.map_map]
    exact List.map_congr_left fun c hc => digitRank_toLower (h c (List.mem_reverse.1 hc))
  rw [hexValue, hranks]
  rfl

end SensorLink.Text
