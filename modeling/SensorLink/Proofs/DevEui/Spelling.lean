import Mathlib.Data.String.Basic
import SensorLink.DevEui
import SensorLink.Proofs.Text.Blank
import SensorLink.Proofs.Text.Hex

namespace SensorLink.DevEui

/-- A text taken apart as reading does it: blanks, the mark `0x` any number of times, then `0X`, a plus
sign or none, and digits. Sign and digits are sixteen characters at most. -/
structure Spelling where
  lead : List Char
  lowerMarks : Nat
  upperMarks : Nat
  plus : Bool
  digits : List Char
  trail : List Char
  lead_blank : ∀ c ∈ lead, Text.isBlank c = true
  trail_blank : ∀ c ∈ trail, Text.isBlank c = true
  digits_ne_nil : digits ≠ []
  isHexDigit : ∀ c ∈ digits, Text.IsHexDigit c
  length_le : (Text.plusSign plus ++ digits).length ≤ 16

namespace Spelling

def number (p : Spelling) : List Char := Text.plusSign p.plus ++ p.digits

def marked (p : Spelling) : List Char :=
  Text.pairs '0' 'x' p.lowerMarks ++ (Text.pairs '0' 'X' p.upperMarks ++ p.number)

def text (p : Spelling) : String := String.ofList (p.lead ++ (p.marked ++ p.trail))

def value (p : Spelling) : Nat := Text.hexValue p.digits

/-- One mark at most, of either case, and no sign. -/
structure Plain (p : Spelling) : Prop where
  marks : p.lowerMarks + p.upperMarks ≤ 1
  unsigned : p.plus = false

theorem mem_marked (p : Spelling) {c : Char} (h : c ∈ p.marked) :
    c ∈ ['0', 'x', 'X', '+'] ∨ Text.IsHexDigit c := by
  rcases List.mem_append.1 h with hmark | hrest
  · rcases Text.mem_pairs hmark with rfl | rfl <;> simp
  · rcases List.mem_append.1 hrest with hmark | hnumber
    · rcases Text.mem_pairs hmark with rfl | rfl <;> simp
    · rcases Text.mem_plusSign_append p.isHexDigit hnumber with rfl | hdigit
      · simp
      · exact Or.inr hdigit

theorem isBlank_marked (p : Spelling) : ∀ c ∈ p.marked, Text.isBlank c = false := by
  intro c hc
  rcases p.mem_marked hc with hmark | hdigit
  · simp only [List.mem_cons, List.not_mem_nil, or_false] at hmark
    rcases hmark with rfl | rfl | rfl | rfl <;> rfl
  · exact hdigit.all (p := fun c => Text.isBlank c = false) (by decide)

theorem number_ne_nil (p : Spelling) : p.number ≠ [] := by
  simp [number, p.digits_ne_nil]

theorem marked_ne_nil (p : Spelling) : p.marked ≠ [] := by
  simp [marked, p.number_ne_nil]

theorem not_mem_number (p : Spelling) {c : Char} (hc : c = 'x' ∨ c = 'X') : c ∉ p.number := by
  intro h
  rcases Text.mem_plusSign_append p.isHexDigit h with rfl | hdigit
  · exact absurd hc (by decide)
  · rcases hc with rfl | rfl <;> exact absurd hdigit (by decide)

theorem digitsOf_text (p : Spelling) : digitsOf p.text.toList = p.number := by
  -- behind the marks `0x` no `x` is left, and behind the marks `0X` no `X`, so that dropping stops there
  have hlower : 'x' ∉ Text.pairs '0' 'X' p.upperMarks ++ p.number := by
    intro h
    rcases List.mem_append.1 h with hmark | hnumber
    · exact absurd (Text.mem_pairs hmark) (by decide)
    · exact p.not_mem_number (Or.inl rfl) hnumber
  rw [text, String.toList_ofList, digitsOf,
    Text.trim_of_blanks p.lead_blank p.isBlank_marked p.marked_ne_nil p.trail_blank, marked,
    Text.dropPairs_pairs_append _ hlower,
    Text.dropPairs_pairs_append _ (p.not_mem_number (Or.inr rfl))]

theorem length_digits_le (p : Spelling) : p.digits.length ≤ 16 := by
  have := p.length_le
  rw [List.length_append] at this
  omega

theorem value_lt (p : Spelling) : p.value < 2 ^ 64 := by
  calc p.value < 16 ^ p.digits.length := Text.hexValue_lt p.isHexDigit
    _ ≤ 16 ^ 16 := Nat.pow_le_pow_right (by decide) p.length_digits_le
    _ = 2 ^ 64 := by decide

theorem readUnsigned_number (p : Spelling) :
    Text.readUnsigned 16 (wordCount 8) p.number = .ok p.value := by
  have hroom : (0 + 1) * 16 ^ p.digits.length ≤ wordCount 8 := by
    rw [Nat.zero_add, Nat.one_mul]
    exact Nat.pow_le_pow_right (by decide) p.length_digits_le
  rw [number, Text.readUnsigned_plusSign _ p.digits_ne_nil p.isHexDigit,
    Text.readDigits_of_room p.isHexDigit hroom, Nat.zero_mul, Nat.zero_add]
  rfl

theorem count_text (p : Spelling) {c : Char} (hblank : Text.isBlank c = false)
    (hdigit : ¬ Text.IsHexDigit c) : p.text.toList.count c =
      p.lowerMarks * ['0', 'x'].count c + p.upperMarks * ['0', 'X'].count c +
        (Text.plusSign p.plus).count c := by
  have hdigits : p.digits.count c = 0 := List.count_eq_zero.2 fun h => hdigit (p.isHexDigit c h)
  rw [text, String.toList_ofList, marked, number]
  simp only [List.count_append, Text.count_pairs, Text.count_of_blanks p.lead_blank hblank,
    Text.count_of_blanks p.trail_blank hblank, hdigits]
  omega

theorem plain_iff (p : Spelling) : p.Plain ↔
    '+' ∉ p.text.toList ∧ p.text.toList.count 'x' + p.text.toList.count 'X' ≤ 1 := by
  have hx : p.text.toList.count 'x' = p.lowerMarks := by
    rw [p.count_text (by decide) (by decide)]
    cases p.plus <;> simp [Text.plusSign]
  have hX : p.text.toList.count 'X' = p.upperMarks := by
    rw [p.count_text (by decide) (by decide)]
    cases p.plus <;> simp [Text.plusSign]
  have hsign : '+' ∉ p.text.toList ↔ p.plus = false := by
    rw [← List.count_eq_zero, p.count_text (by decide) (by decide)]
    cases p.plus <;> simp [Text.plusSign]
  rw [hsign, hx, hX]
  exact ⟨fun h => ⟨h.unsigned, h.marks⟩, fun h => ⟨h.2, h.1⟩⟩

end Spelling

variable {s : String} {e : DevEui} {fault : InvalidDevEui}

theorem parse_eq_ok : parse s = .ok e ↔
    digitsOf s.toList ≠ [] ∧ (String.ofList (digitsOf s.toList)).utf8ByteSize ≤ 16 ∧
      ∃ n, Text.readUnsigned 16 (wordCount 8) (digitsOf s.toList) = .ok n ∧ e = ⟨.ofNat n⟩ := by
  have hguard : ((digitsOf s.toList).isEmpty ||
      16 < (String.ofList (digitsOf s.toList)).utf8ByteSize) = true ↔
      ¬ (digitsOf s.toList ≠ [] ∧ (String.ofList (digitsOf s.toList)).utf8ByteSize ≤ 16) := by
    rw [Bool.or_eq_true, List.isEmpty_iff, decide_eq_true_iff, not_and_or, not_not, not_le]
  rw [parse]
  split
  · rename_i hrefused
    rw [← and_assoc]
    refine iff_of_false (fun h => by cases h) fun h => hguard.1 hrefused h.1
  · rename_i hadmitted
    rw [hguard, not_not] at hadmitted
    rw [← and_assoc, and_iff_right hadmitted]
    cases Text.readUnsigned 16 (wordCount 8) (digitsOf s.toList) with
    | error number => simp
    | ok n => simp [eq_comm]

theorem parse_text (p : Spelling) : parse p.text = .ok ⟨.ofNat p.value⟩ := by
  have hsize : (String.ofList p.number).utf8ByteSize = p.number.length :=
    Text.utf8ByteSize_plusSign_append p.isHexDigit
  rw [parse_eq_ok, p.digitsOf_text, hsize]
  exact ⟨p.number_ne_nil, p.length_le, p.value, p.readUnsigned_number, rfl⟩

theorem exists_spelling (h : parse s = .ok e) :
    ∃ p : Spelling, p.text = s ∧ p.value = e.value.toNat := by
  obtain ⟨-, hsize, n, hn, -⟩ := parse_eq_ok.1 h
  obtain ⟨lead, trail, hlead, htrail, hs⟩ := Text.exists_trim s.toList
  obtain ⟨lower, hlower⟩ := Text.exists_dropPairs '0' 'x' (Text.trim s.toList)
  obtain ⟨upper, hupper⟩ :=
    Text.exists_dropPairs '0' 'X' (Text.dropPairs '0' 'x' (Text.trim s.toList))
  obtain ⟨plus, ds, hds, hne, hdigits⟩ := Text.plusSign_of_readUnsigned hn
  rw [hds, Text.utf8ByteSize_plusSign_append hdigits] at hsize
  -- the sixteen bytes that are admitted are as many characters, the sign included
  let p : Spelling := ⟨lead, lower, upper, plus, ds, trail, hlead, htrail, hne, hdigits, hsize⟩
  have htext : p.text = s := by
    apply String.toList_injective
    rw [Spelling.text, String.toList_ofList, Spelling.marked, Spelling.number, ← hds, digitsOf, ← hupper,
      ← hlower, ← hs]
  refine ⟨p, htext, ?_⟩
  have hvalue : (⟨.ofNat p.value⟩ : DevEui) = e := by
    have hp := parse_text p
    rw [htext, h] at hp
    exact (Except.ok.inj hp).symm
  rw [← hvalue]
  exact (UInt64.toNat_ofNat_of_lt' p.value_lt).symm

theorem text_of_parse_error (h : parse s = .error fault) : fault = ⟨s⟩ := by
  rw [parse] at h
  split at h
  · cases h
    rfl
  · split at h
    · cases h
    · cases h
      rfl

/-- A text is read exactly if it is spelled in some way, as the number that the digits of the spelling
write, and otherwise refused with the text as it was given. It is a plain spelling exactly if it is read
and holds no plus sign and one x at most. -/
theorem reads_spellings (s : String) (e : DevEui) (fault : InvalidDevEui) :
    (parse s = .ok e ↔ ∃ p : Spelling, p.text = s ∧ p.value = e.value.toNat) ∧
    (parse s = .error fault ↔ fault = ⟨s⟩ ∧ ∀ p : Spelling, p.text ≠ s) ∧
    ((∃ p : Spelling, p.Plain ∧ p.text = s ∧ p.value = e.value.toNat) ↔
      parse s = .ok e ∧ '+' ∉ s.toList ∧ s.toList.count 'x' + s.toList.count 'X' ≤ 1) := by
  have hread : parse s = .ok e ↔ ∃ p : Spelling, p.text = s ∧ p.value = e.value.toNat := by
    constructor
    · exact exists_spelling
    · rintro ⟨p, rfl, hvalue⟩
      rw [parse_text, hvalue, UInt64.ofNat_toNat]
  refine ⟨hread, ?_, ?_⟩
  · constructor
    · intro h
      refine ⟨text_of_parse_error h, ?_⟩
      rintro p rfl
      rw [parse_text] at h
      cases h
    · rintro ⟨rfl, hnone⟩
      cases h : parse s with
      | ok e =>
        obtain ⟨p, htext, -⟩ := exists_spelling h
        exact absurd htext (hnone p)
      | error fault => rw [text_of_parse_error h]
  · rw [hread]
    constructor
    · rintro ⟨p, hplain, rfl, hvalue⟩
      exact ⟨⟨p, rfl, hvalue⟩, p.plain_iff.1 hplain⟩
    · rintro ⟨⟨p, rfl, hvalue⟩, hmarks⟩
      exact ⟨p, p.plain_iff.2 hmarks, rfl, hvalue⟩

/-- A sign is read, and so is a mark that is repeated, though neither spelling is plain. -/
theorem sign_and_repeated_mark_read :
    parse "+1F" = .ok ⟨0x1F⟩ ∧ parse "0x0x12" = .ok ⟨0x12⟩ ∧
    ∀ p : Spelling, p.Plain → p.text ≠ "+1F" ∧ p.text ≠ "0x0x12" := by
  refine ⟨by rfl, by rfl, ?_⟩
  intro p hplain
  obtain ⟨hsign, hmarks⟩ := p.plain_iff.1 hplain
  constructor
  · intro h
    rw [h] at hsign
    exact hsign (by decide)
  · intro h
    rw [h] at hmarks
    exact absurd hmarks (by decide)

end SensorLink.DevEui
