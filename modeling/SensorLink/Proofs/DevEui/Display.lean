import SensorLink.Proofs.DevEui.Spelling

namespace SensorLink.DevEui

variable {e e' : DevEui} {c : Char}

theorem toList_display (e : DevEui) : e.display.toList = Text.upperHex e.value.toNat :=
  String.toList_ofList

theorem mem_hexAlphabet_of_mem_display (h : c ∈ e.display.toList) : c ∈ Text.hexAlphabet := by
  rw [toList_display] at h
  exact Text.mem_hexAlphabet_of_mem_upperHex h

theorem length_display_le (e : DevEui) : e.display.length ≤ 16 := by
  have hlt : e.value.toNat < 16 ^ 16 := e.value.toNat_lt
  rw [← String.length_toList, toList_display, Text.upperHex, List.length_map]
  exact Text.length_hexDigits_le (by decide) hlt

theorem display_ne_empty (e : DevEui) : e.display ≠ "" := by
  rw [ne_eq, ← String.toList_eq_nil_iff, toList_display, Text.upperHex, List.map_eq_nil_iff]
  exact Text.hexDigits_ne_nil _

theorem display_of_leading_zero (h : e.display.toList.head? = some '0') : e.display = "0" := by
  rw [toList_display] at h
  apply String.toList_injective
  rw [toList_display, Text.eq_zero_of_head?_upperHex h, Text.upperHex, Text.hexDigits_zero]
  rfl

theorem display_inj (h : e.display = e'.display) : e = e' := by
  have hdigits := congrArg String.toList h
  rw [toList_display, toList_display] at hdigits
  have hvalue := UInt64.toNat_inj.1 (Text.upperHex_inj hdigits)
  cases e
  cases e'
  exact congrArg DevEui.mk hvalue

theorem toList_toLower (s : String) : s.toLower.toList = s.toList.map Char.toLower :=
  String.toList_map

/-- The digits of an identifier, as they are written or in lower case. -/
def IsWritten (e : DevEui) (form : String) : Prop := form = e.display ∨ form = e.display.toLower

theorem IsWritten.isHexDigit {form : String} (h : e.IsWritten form) :
    ∀ c ∈ form.toList, Text.IsHexDigit c := by
  intro c hc
  rcases h with rfl | rfl
  · exact Text.isHexDigit_of_mem (mem_hexAlphabet_of_mem_display hc)
  · rw [toList_toLower] at hc
    obtain ⟨c', hc', rfl⟩ := List.mem_map.1 hc
    exact List.mem_append_right _ (List.mem_map_of_mem (mem_hexAlphabet_of_mem_display hc'))

theorem IsWritten.hexValue {form : String} (h : e.IsWritten form) :
    Text.hexValue form.toList = e.value.toNat := by
  have hdisplay : Text.hexValue e.display.toList = e.value.toNat := by
    rw [toList_display, Text.hexValue_upperHex]
  rcases h with rfl | rfl
  · exact hdisplay
  · rw [toList_toLower,
      Text.hexValue_map_toLower fun c hc => mem_hexAlphabet_of_mem_display hc, hdisplay]

theorem IsWritten.ne_nil {form : String} (h : e.IsWritten form) : form.toList ≠ [] := by
  have hdisplay : e.display.toList ≠ [] := fun hnil => e.display_ne_empty (String.toList_eq_nil_iff.1 hnil)
  rcases h with rfl | rfl
  · exact hdisplay
  · rw [toList_toLower]
    exact fun hnil => hdisplay (List.map_eq_nil_iff.1 hnil)

theorem IsWritten.parse {form : String} (h : e.IsWritten form) (lead mark trail : String) (zeros : Nat)
    (hroom : zeros + form.length ≤ 16) (hmark : mark ∈ ["", "0x", "0X"])
    (hlead : ∀ c ∈ lead.toList, Text.isBlank c = true)
    (htrail : ∀ c ∈ trail.toList, Text.isBlank c = true) :
    parse (lead ++ (mark ++ (String.ofList (List.replicate zeros '0') ++ form)) ++ trail) = .ok e := by
  obtain ⟨lower, upper, hmarks⟩ : ∃ lower upper,
      mark.toList = Text.pairs '0' 'x' lower ++ Text.pairs '0' 'X' upper := by
    simp only [List.mem_cons, List.not_mem_nil, or_false] at hmark
    rcases hmark with rfl | rfl | rfl
    · exact ⟨0, 0, rfl⟩
    · exact ⟨1, 0, rfl⟩
    · exact ⟨0, 1, rfl⟩
  have hdigits : ∀ c ∈ List.replicate zeros '0' ++ form.toList, Text.IsHexDigit c := by
    intro c hc
    rcases List.mem_append.1 hc with hzero | hform
    · rw [List.eq_of_mem_replicate hzero]
      decide
    · exact h.isHexDigit c hform
  -- all that may stand around the digits makes one spelling of them
  let p : Spelling :=
    { lead := lead.toList, lowerMarks := lower, upperMarks := upper, plus := false
      digits := List.replicate zeros '0' ++ form.toList, trail := trail.toList
      lead_blank := hlead, trail_blank := htrail
      digits_ne_nil := by simp [h.ne_nil]
      isHexDigit := hdigits
      length_le := by simpa [Text.plusSign, String.length_toList] using hroom }
  have htext : p.text =
      lead ++ (mark ++ (String.ofList (List.replicate zeros '0') ++ form)) ++ trail := by
    apply String.toList_injective
    simp [p, Spelling.text, Spelling.marked, Spelling.number, Text.plusSign, hmarks]
  have hvalue : p.value = e.value.toNat :=
    (Text.hexValue_replicate_zero zeros form.toList).trans h.hexValue
  rw [← htext, parse_text, hvalue, UInt64.ofNat_toNat]

theorem parse_display (e : DevEui) : parse e.display = .ok e := by
  have hwritten : e.IsWritten e.display := Or.inl rfl
  have hroom : 0 + e.display.length ≤ 16 := by
    rw [Nat.zero_add]
    exact e.length_display_le
  have h := hwritten.parse "" "" "" 0 hroom List.mem_cons_self (by simp) (by simp)
  simpa using h

/-- An identifier is written with upper-case digits, sixteen at most, and no leading zero. It is read
back from what was written, from the same in lower case, and from either behind as many zeros as sixteen
digits leave room for, with a mark, and between blanks. So no two identifiers are written alike. -/
theorem display_reads_back (e : DevEui) :
    (e.display ≠ "" ∧ e.display.length ≤ 16 ∧ (∀ c ∈ e.display.toList, c ∈ Text.hexAlphabet) ∧
      (e.display.toList.head? = some '0' → e.display = "0")) ∧
    (∀ lead mark form trail : String, ∀ zeros : Nat, e.IsWritten form → zeros + form.length ≤ 16 →
      mark ∈ ["", "0x", "0X"] → (∀ c ∈ lead.toList, Text.isBlank c = true) →
      (∀ c ∈ trail.toList, Text.isBlank c = true) →
      parse (lead ++ (mark ++ (String.ofList (List.replicate zeros '0') ++ form)) ++ trail) = .ok e) ∧
    ∀ e', e.display = e'.display → e = e' := by
  refine ⟨⟨e.display_ne_empty, e.length_display_le, fun c => mem_hexAlphabet_of_mem_display,
    display_of_leading_zero⟩, ?_, fun e' => display_inj⟩
  intro lead mark form trail zeros hform hroom hmark hlead htrail
  exact hform.parse lead mark trail zeros hroom hmark hlead htrail

/-- An identifier of six digits in lower case, filled up with zeros behind a mark and a blank. -/
theorem display_reads_back_padded :
    IsWritten ⟨0xC0FFEE⟩ "c0ffee" ∧ parse " 0x0000000000c0ffee\n" = .ok ⟨0xC0FFEE⟩ := by
  have hdigits : Text.upperHex 0xC0FFEE = ['C', '0', 'F', 'F', 'E', 'E'] := by
    have hplaces : Nat.digits 16 0xC0FFEE = [14, 14, 15, 15, 0, 12] := by simp
    rw [Text.upperHex, Text.hexDigits_of_pos (by decide), hplaces]
    rfl
  have hform : IsWritten ⟨0xC0FFEE⟩ "c0ffee" := by
    right
    apply String.toList_injective
    rw [toList_toLower, toList_display]
    exact (congrArg (List.map Char.toLower) hdigits).symm
  have hlead : " ".toList.all Text.isBlank = true := by decide
  have htrail : "\n".toList.all Text.isBlank = true := by decide
  exact ⟨hform, (display_reads_back ⟨0xC0FFEE⟩).2.1 " " "0x" "c0ffee" "\n" 10 hform (by decide)
    (by decide) (List.all_eq_true.1 hlead) (List.all_eq_true.1 htrail)⟩

end SensorLink.DevEui
