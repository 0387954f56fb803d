import SensorLink.IoError
import SensorLink.Text.Number

namespace SensorLink

inductive SocketAddress where
  | v4 (octets : List Nat) (port : Nat)
  | v6 (groups : List Nat) (scope : Nat) (port : Nat)
deriving DecidableEq, Repr

namespace SocketAddress

/-- Reads digits as far as they go; more than `width` of them, a value out of bounds or, unless
allowed, a needless leading zero is refused. -/
def number (base : Nat) (width : Option Nat) (bound : Nat) (leadingZero : Bool) (s : List Char) :
    Option (Nat × List Char) :=
  let digits := s.takeWhile fun c => (Text.digitValue? base c).isSome
  let wide := match width with
    | some w => w < digits.length
    | none => false
  if digits.isEmpty || wide then none
  else if !leadingZero && digits.head? = some '0' && 1 < digits.length then none
  else match Text.readDigits base bound 0 digits with
    | .ok n => some (n, s.drop digits.length)
    | .error _ => none

def expect (c : Char) : List Char → Option (List Char)
  | [] => none
  | d :: rest => if c = d then some rest else none

def octets (s : List Char) : Option (List Nat × List Char) := do
  let octet := number 10 (some 3) 256 false
  let (a, s) ← octet s
  let (b, s) ← octet (← expect '.' s)
  let (c, s) ← octet (← expect '.' s)
  let (d, s) ← octet (← expect '.' s)
  return ([a, b, c, d], s)

def portNumber (s : List Char) : Option (Nat × List Char) := do
  number 10 none 65536 true (← expect ':' s)

def separated {α : Type} (first : Bool) (read : List Char → Option α) (s : List Char) : Option α :=
  if first then read s else expect ':' s >>= read

/-- Reads up to `room` groups; two of them may be written as four octets, which then are the last.
The flag tells whether that was so. -/
def groups (first : Bool) : Nat → List Char → List Nat × Bool × List Char
  | 0, s => ([], false, s)
  | room + 1, s =>
    match if room = 0 then none else separated first octets s with
    | some ([a, b, c, d], s) => ([a * 256 + b, c * 256 + d], true, s)
    | _ =>
      match separated first (number 16 (some 4) 65536 true) s with
      | some (g, s) =>
        let (more, embedded, s) := groups false room s
        (g :: more, embedded, s)
      | none => ([], false, s)

/-- Eight groups, of which one run of at least one zero may be written as a double colon. -/
def groupAddress (s : List Char) : Option (List Nat × List Char) :=
  let (head, embedded, rest) := groups true 8 s
  if head.length = 8 then some (head, rest)
  else if embedded then none
  else do
    let rest ← expect ':' (← expect ':' rest)
    let (tail, _, rest) := groups true (7 - head.length) rest
    return (head ++ List.replicate (8 - head.length - tail.length) 0 ++ tail, rest)

def scope (s : List Char) : Option (Nat × List Char) := do
  number 10 none (wordCount 4) true (← expect '%' s)

def parseV4 (s : List Char) : Option (SocketAddress × List Char) := do
  let (octets, s) ← octets s
  let (port, s) ← portNumber s
  return (.v4 octets port, s)

def parseV6 (s : List Char) : Option (SocketAddress × List Char) := do
  let (groups, s) ← groupAddress (← expect '[' s)
  let (scope, s) := (scope s).getD (0, s)
  let (port, s) ← portNumber (← expect ']' s)
  return (.v6 groups scope port, s)

/-- Reads `a.b.c.d:port`, or eight groups in brackets with an optional scope, where one run of zero
groups may be left out. -/
def parse (s : String) : Option SocketAddress :=
  match parseV4 s.toList <|> parseV6 s.toList with
  | some (a, []) => some a
  | _ => none

def octetText (octets : List Nat) : String := ".".intercalate (octets.map toString)

def groupText (groups : List Nat) : String :=
  ":".intercalate (groups.map fun g => String.ofList (Text.lowerHex g))

def zeroRun (groups : List Nat) : Nat × Nat :=
  let step := fun (state : Nat × (Nat × Nat) × (Nat × Nat)) g =>
    let (index, current, longest) := state
    if g = 0 then
      let current := if current.2 = 0 then (index, 1) else (current.1, current.2 + 1)
      (index + 1, current, if longest.2 < current.2 then current else longest)
    else (index + 1, (0, 0), longest)
  (groups.foldl step (0, (0, 0), (0, 0))).2.2

/-- Groups of a mapped address end in octets; in others the longest run of zeros is left out. -/
def addressText (groups : List Nat) : String :=
  match groups with
  | [0, 0, 0, 0, 0, 0xFFFF, x, y] =>
    "::ffff:" ++ octetText [x / 256, x % 256, y / 256, y % 256]
  | _ =>
    let (start, length) := zeroRun groups
    if 1 < length then
      groupText (groups.take start) ++ "::" ++ groupText (groups.drop (start + length))
    else groupText groups

def display : SocketAddress → String
  | .v4 octets port => octetText octets ++ ":" ++ toString port
  | .v6 groups scope port =>
    let scopeText := if scope = 0 then "" else "%" ++ toString scope
    "[" ++ addressText groups ++ scopeText ++ "]:" ++ toString port

def port : SocketAddress → Nat
  | .v4 _ port => port
  | .v6 _ _ port => port

def allGroups : SocketAddress → List Nat
  | .v4 [a, b, c, d] _ => [0, 0, 0, 0, 0, 0xFFFF, a * 256 + b, c * 256 + d]
  | .v4 _ _ => []
  | .v6 groups _ _ => groups

def isMapped (groups : List Nat) : Bool := groups.take 6 = [0, 0, 0, 0, 0, 0xFFFF]

/-- Whether connections to `other` reach a socket that listens on `groups`: on all addresses, on all
mapped ones, or on this one. -/
def covers (groups other : List Nat) : Bool :=
  groups.all (· = 0) || groups = other ||
    (isMapped groups && isMapped other && (groups.drop 6).all (· = 0))

/-- Whether two sockets cannot listen on these addresses at the same time. Port zero stands for any
free port. -/
def conflicts (a b : SocketAddress) : Bool :=
  a.port ≠ 0 && a.port = b.port &&
    (covers a.allGroups b.allGroups || covers b.allGroups a.allGroups)

/-- Whether a host without a network has the address: a wildcard or a loopback address. -/
def isLocal (a : SocketAddress) : Bool :=
  match a.allGroups with
  | [0, 0, 0, 0, 0, 0, 0, last] => last ≤ 1
  | [0, 0, 0, 0, 0, 0xFFFF, x, y] => x / 256 = 127 || (x = 0 && y = 0)
  | _ => false

def bindBeside (others : List SocketAddress) (a : SocketAddress) : Except IoError Unit :=
  if !a.isLocal then .error .addressNotAvailable
  else if others.any a.conflicts then .error .addressInUse
  else .ok ()

end SocketAddress

end SensorLink
