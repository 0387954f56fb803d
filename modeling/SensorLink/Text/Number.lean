import SensorLink.Bytes

namespace SensorLink.Text

def digitValue? (base : Nat) (c : Char) : Option Nat :=
  let v :=
    if '0' ≤ c ∧ c ≤ '9' then some (c.toNat - 48)
    else if 'a' ≤ c ∧ c ≤ 'f' then some (c.toNat - 87)
    else if 'A' ≤ c ∧ c ≤ 'F' then some (c.toNat - 55)
    else none
  v.filter (· < base)

inductive NumberFault where
  | empty
  | invalidDigit
  | tooLarge
deriving DecidableEq, Repr

def NumberFault.message : NumberFault → String
  | .empty => "cannot parse integer from empty string"
  | .invalidDigit => "invalid digit found in string"
  | .tooLarge => "number too large to fit in target type"

/-- Reads digits from the left onto `acc`; the first fault met wins. -/
def readDigits (base bound : Nat) : Nat → List Char → Except NumberFault Nat
  | acc, [] => .ok acc
  | acc, c :: rest =>
    match digitValue? base c with
    | none => .error .invalidDigit
    | some d =>
      let next := acc * base + d
      if next < bound then readDigits base bound next rest else .error .tooLarge

/-- Reads a number below `bound`; one plus sign may precede the digits. -/
def readUnsigned (base bound : Nat) : List Char → Except NumberFault Nat
  | [] => .error .empty
  | ['+'] => .error .invalidDigit
  | '+' :: rest => readDigits base bound 0 rest
  | s => readDigits base bound 0 s

def readUInt64 (s : String) : Except NumberFault UInt64 :=
  (readUnsigned 10 (wordCount 8) s.toList).map UInt64.ofNat

def upperHexDigit (d : Nat) : Char := Char.ofNat (if d < 10 then 48 + d else 55 + d)

def lowerHexDigit (d : Nat) : Char := Char.ofNat (if d < 10 then 48 + d else 87 + d)

def hexDigits (n : Nat) : List Nat :=
  if n < 16 then [n] else hexDigits (n / 16) ++ [n % 16]

def upperHex (n : Nat) : List Char := (hexDigits n).map upperHexDigit

def lowerHex (n : Nat) : List Char := (hexDigits n).map lowerHexDigit

end SensorLink.Text
