import SensorLink.Bytes
import SensorLink.Text.Number

namespace SensorLink.Target

def splitAt (p : Char → Bool) : List Char → List (List Char)
  | [] => [[]]
  | c :: rest =>
    if p c then [] :: splitAt p rest
    else match splitAt p rest with
      | [] => [[c]]
      | part :: parts => (c :: part) :: parts

def isPathEncoded (c : Char) : Bool :=
  c.toNat ≤ 0x20 || 0x7F ≤ c.toNat || ['"', '#', '<', '>', '?', '\x60', '\x7b', '\x7d'].contains c

def isQueryEncoded (c : Char) : Bool :=
  c.toNat ≤ 0x20 || 0x7F ≤ c.toNat || ['"', '#', '<', '>', '\''].contains c

def percentByte (b : UInt8) : List Char :=
  ['%', Text.upperHexDigit (b.toNat / 16), Text.upperHexDigit (b.toNat % 16)]

def percentEncode (p : Char → Bool) (s : List Char) : List Char :=
  s.flatMap fun c => if p c then (utf8 c.toString).flatMap percentByte else [c]

def lowerAscii (s : List Char) : String := String.ofList (s.map Char.toLower)

def isDot (segment : List Char) : Bool := [".", "%2e"].contains (lowerAscii segment)

def isDoubleDot (segment : List Char) : Bool :=
  ["..", ".%2e", "%2e.", "%2e%2e"].contains (lowerAscii segment)

/-- A letter with a colon or a bar, as drives are named. -/
def isDrive : List Char → Bool
  | [letter, mark] => letter.isAlpha && (mark = ':' || mark = '|')
  | _ => false

/-- The path one level up; above a drive there is none. -/
def dropLast : List (List Char) → List (List Char)
  | [] => []
  | segment :: above => if isDrive segment then segment :: above else above

/-- Resolves dot segments; a final one stands for the empty name. `above` is the path so far, last
segment first. -/
def resolveDots (above : List (List Char)) : List (List Char) → List (List Char)
  | [] => above.reverse
  | segment :: rest =>
    let above := if isDoubleDot segment then dropLast above
      else if isDot segment then above else segment :: above
    let last := rest.isEmpty && (isDot segment || isDoubleDot segment)
    resolveDots (if last then [] :: above else above) rest

def pathText (s : List Char) : List Char :=
  let segments := resolveDots [] (splitAt (fun c => c = '/' || c = '\\') (s.drop 1))
  segments.flatMap fun segment => '/' :: percentEncode isPathEncoded segment

def isFragmentEncoded (c : Char) : Bool :=
  c.toNat ≤ 0x20 || 0x7F ≤ c.toNat || ['"', '<', '>', '\x60'].contains c

def longestUrl : Nat := 65534

/-- The target that the text behind a URL's authority asks for, if the authority ends there. `before`
is how many bytes of the URL stand before that text; the whole URL counts in its encoded form. -/
def ofText (before : Nat) (s : List Char) : Option String :=
  let s := s.filter fun c => !(['\t', '\n', '\r'].contains c)
  let fragment := percentEncode isFragmentEncoded (s.dropWhile (· ≠ '#'))
  let s := s.takeWhile (· ≠ '#')
  let path := s.takeWhile (· ≠ '?')
  let query := (s.dropWhile (· ≠ '?')).drop 1
  if path.isEmpty || path.head? = some '/' || path.head? = some '\\' then
    let queryText := if s.contains '?' then '?' :: percentEncode isQueryEncoded query else []
    let target := pathText path ++ queryText
    if before + target.length + fragment.length ≤ longestUrl then some (String.ofList target)
    else none
  else none

end SensorLink.Target
