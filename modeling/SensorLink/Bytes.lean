
namespace SensorLink

abbrev Bytes := List UInt8

/-- How many values a word of some bytes has. -/
def wordCount : Nat → Nat
  | 0 => 1
  | width + 1 => 256 * wordCount width

/-- The low `width` bytes of `n`, least significant first. -/
def leBytes : Nat → Nat → Bytes
  | 0, _ => []
  | width + 1, n => UInt8.ofNat n :: leBytes width (n / 256)

def ofLeBytes : Bytes → Nat
  | [] => 0
  | b :: rest => b.toNat + 256 * ofLeBytes rest

@[simp] theorem length_leBytes (width n : Nat) : (leBytes width n).length = width := by
  induction width generalizing n with
  | zero => rfl
  | succ width ih => simp [leBytes, ih]

theorem ofLeBytes_leBytes (width n : Nat) : ofLeBytes (leBytes width n) = n % wordCount width := by
  induction width generalizing n with
  | zero => simp [leBytes, ofLeBytes, wordCount, Nat.mod_one]
  | succ width ih => simp [leBytes, ofLeBytes, wordCount, ih, Nat.mod_mul]

theorem ofLeBytes_lt (bs : Bytes) : ofLeBytes bs < wordCount bs.length := by
  induction bs with
  | nil => simp [ofLeBytes, wordCount]
  | cons b rest ih =>
    have := b.toNat_lt
    simp only [ofLeBytes, List.length_cons, wordCount]
    omega

theorem leBytes_ofLeBytes (bs : Bytes) : leBytes bs.length (ofLeBytes bs) = bs := by
  induction bs with
  | nil => rfl
  | cons b rest ih =>
    have h : (b.toNat + 256 * ofLeBytes rest) / 256 = ofLeBytes rest := by
      have := b.toNat_lt; omega
    have h' : UInt8.ofNat (b.toNat + 256 * ofLeBytes rest) = b := by
      apply UInt8.toNat_inj.1
      have := b.toNat_lt
      simp
    simp [leBytes, ofLeBytes, h, h', ih]

theorem leBytes_mod (width n : Nat) : leBytes width (n % wordCount width) = leBytes width n := by
  have h := leBytes_ofLeBytes (leBytes width n)
  rwa [length_leBytes, ofLeBytes_leBytes] at h

theorem short_or_word (width : Nat) (bs : Bytes) :
    bs.length < width ∨ ∃ n rest, n < wordCount width ∧ bs = leBytes width n ++ rest := by
  by_cases hshort : bs.length < width
  · exact Or.inl hshort
  · have hlen : (bs.take width).length = width := by
      rw [List.length_take]
      omega
    have hlt := ofLeBytes_lt (bs.take width)
    have hword := leBytes_ofLeBytes (bs.take width)
    rw [hlen] at hlt hword
    refine Or.inr ⟨ofLeBytes (bs.take width), bs.drop width, hlt, ?_⟩
    rw [hword, List.take_append_drop]

def utf8 (s : String) : Bytes := s.toUTF8.toList

end SensorLink
