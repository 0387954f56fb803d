import SensorLink.Rest.Target

namespace SensorLink

structure RestEndpoint where
  host : String
  port : Nat
  target : String
deriving DecidableEq, Repr

namespace RestEndpoint

def isAuthorityChar (c : Char) : Bool := !(['/', '\\', '?', '#'].contains c)

/-- Splits a host from the port behind its last colon; a host in brackets may hold colons. -/
def splitPort (authority : List Char) : Option (List Char × Nat) :=
  let back := authority.reverse.takeWhile (· ≠ ':')
  if authority.contains ':' && !back.contains ']' then
    let host := authority.take (authority.length - back.length - 1)
    if back.isEmpty then some (host, 80)
    else match Text.readDigits 10 65536 0 back.reverse with
      | .ok port => some (host, port)
      | .error _ => none
  else some (authority, 80)

def ofUrl? (url : String) : Option RestEndpoint := do
  if !url.startsWith "http://" then none
  let rest := url.toList.drop 7
  let authority := rest.takeWhile isAuthorityChar
  let (host, port) ← splitPort authority
  if host.isEmpty then none
  let before := 7 + (String.ofList authority).utf8ByteSize
  return ⟨String.ofList host, port, ← Target.ofText before (rest.dropWhile isAuthorityChar)⟩

end RestEndpoint

end SensorLink
