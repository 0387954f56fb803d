import SensorLink.Settings.Value
import SensorLink.Toml.Quoted

namespace SensorLink.Toml

open Settings (Value)

def isScalarChar (c : Char) : Bool := c.isAlphanum || ['_', '+', '-', '.', ':'].contains c

def splitOnChar (mark : Char) : List Char → List (List Char)
  | [] => [[]]
  | c :: rest =>
    match splitOnChar mark rest with
    | part :: parts => if c = mark then [] :: part :: parts else (c :: part) :: parts
    | [] => []

/-- Digits, where single underscores may stand between two of them. -/
def digitGroups? (base : Nat) (s : List Char) : Option (List Char) :=
  let groups := splitOnChar '_' s
  if groups.all fun g => !g.isEmpty && g.all fun c => (Text.digitValue? base c).isSome then
    some groups.flatten
  else none

def wholeDigits? (s : List Char) : Option (List Char) := do
  let digits ← digitGroups? 10 s
  if digits.head? = some '0' ∧ 1 < digits.length then none else some digits

def digitsValue (digits : List Char) : Nat :=
  digits.foldl (fun n c => n * 10 + (Text.digitValue? 10 c).getD 0) 0

def splitSign : List Char → Bool × List Char
  | '+' :: rest => (false, rest)
  | '-' :: rest => (true, rest)
  | s => (false, s)

def signed (negative : Bool) (n : Nat) : Int := if negative then -n else n

def integer? (s : List Char) : Option Int := do
  let (base, negative, digits) ← match s with
    | '0' :: 'x' :: digits => do some (16, false, ← digitGroups? 16 digits)
    | '0' :: 'o' :: digits => do some (8, false, ← digitGroups? 8 digits)
    | '0' :: 'b' :: digits => do some (2, false, ← digitGroups? 2 digits)
    | _ => do
      let (negative, s) := splitSign s
      some (10, negative, ← wholeDigits? s)
  match Text.readDigits base (wordCount 8 / 2 + negative.toNat) 0 digits with
  | .ok n => some (signed negative n)
  | .error _ => none

/-- Whether decimal digits times ten to the power `shift` are rounded to infinity in double
precision. -/
def isInfinite (digits : List Char) (shift : Int) : Bool :=
  let digits := digits.dropWhile (· = '0')
  let places := digits.length + shift
  let bound := Nat.pow 2 1024 - Nat.pow 2 970
  if digits.isEmpty || places ≤ 308 then false
  else if 310 < places then true
  else if 0 ≤ shift then bound ≤ digitsValue digits * Nat.pow 10 shift.toNat
  else bound * Nat.pow 10 (-shift).toNat ≤ digitsValue digits

/-- A decimal fraction or a power of ten; only a negative one may be infinite. -/
def isDecimal (s : List Char) : Bool :=
  let (negative, s) := splitSign s
  if s = ['i', 'n', 'f'] || s = ['n', 'a', 'n'] then true
  else
    let isMark : Char → Bool := fun c => c = 'e' || c = 'E'
    let mantissa := s.takeWhile (!isMark ·)
    let power := (s.dropWhile (!isMark ·)).drop 1
    let whole := mantissa.takeWhile (· ≠ '.')
    let fraction := (mantissa.dropWhile (· ≠ '.')).drop 1
    let hasPower := s.any isMark
    let hasFraction := mantissa.contains '.'
    let (down, powerDigits) := splitSign power
    let digitsOf := fun (isThere : Bool) (s : List Char) =>
      if isThere then digitGroups? 10 s else some []
    match wholeDigits? whole, digitsOf hasFraction fraction, digitsOf hasPower powerDigits with
    | some a, some b, some p =>
      (hasPower || hasFraction) &&
        (negative || !isInfinite (a ++ b) (signed down (digitsValue p) - b.length))
    | _, _, _ => false

def pair? (a b : Char) (bound : Nat) : Option Nat :=
  match Text.readDigits 10 bound 0 [a, b] with
  | .ok n => some n
  | .error _ => none

def daysIn (year month : Nat) : Nat :=
  if month = 2 then
    if year % 4 = 0 ∧ (year % 100 ≠ 0 ∨ year % 400 = 0) then 29 else 28
  else if [4, 6, 9, 11].contains month then 30 else 31

def isDate : List Char → Bool
  | [y₁, y₂, y₃, y₄, '-', m₁, m₂, '-', d₁, d₂] =>
    match pair? y₁ y₂ 100, pair? y₃ y₄ 100, pair? m₁ m₂ 13, pair? d₁ d₂ 32 with
    | some century, some year, some month, some day =>
      1 ≤ month && 1 ≤ day && day ≤ daysIn (century * 100 + year) month
    | _, _, _, _ => false
  | _ => false

/-- A time of day; a minute may have a leap second. -/
def isTime : List Char → Bool
  | h₁ :: h₂ :: ':' :: m₁ :: m₂ :: ':' :: s₁ :: s₂ :: fraction =>
    (pair? h₁ h₂ 24).isSome && (pair? m₁ m₂ 60).isSome && (pair? s₁ s₂ 61).isSome &&
      match fraction with
      | [] => true
      | '.' :: digits => !digits.isEmpty && digits.all Char.isDigit
      | _ => false
  | _ => false

def isOffset : List Char → Bool
  | [] | ['Z'] | ['z'] => true
  | [sign, h₁, h₂, ':', m₁, m₂] =>
    (sign = '+' || sign = '-') && (pair? h₁ h₂ 24).isSome && (pair? m₁ m₂ 60).isSome
  | _ => false

def isZonedTime (s : List Char) : Bool :=
  let isTimeChar : Char → Bool := fun c => c.isDigit || c = ':' || c = '.'
  isTime (s.takeWhile isTimeChar) && isOffset (s.dropWhile isTimeChar)

def isMoment (s : List Char) : Bool :=
  isTime s || (isDate (s.take 10) &&
    match s.drop 10 with
    | [] => true
    | mark :: time => (mark = 'T' || mark = 't') && isZonedTime time)

def scalarValue? (s : List Char) : Option Value :=
  if s = "true".toList then some (.boolean true)
  else if s = "false".toList then some (.boolean false)
  else if isMoment s then some .moment
  else if isDecimal s then some .decimal
  else (integer? s).map .integer

/-- A scalar without quotes. One blank may join a date and a time. -/
def scalar : Scan Value := fun s => do
  let token := s.takeWhile isScalarChar
  let rest := s.drop token.length
  let v ← scalarValue? token
  match rest with
  | ' ' :: later =>
    let time := later.takeWhile isScalarChar
    if isDate token && isZonedTime time then return (v, later.drop time.length)
    else return (v, rest)
  | _ => return (v, rest)

end SensorLink.Toml
