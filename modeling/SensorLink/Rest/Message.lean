import SensorLink.Rest
import SensorLink.Rest.Endpoint

namespace SensorLink

namespace RestEndpoint

def postMessage (l : RestEndpoint) (body : Bytes) : Bytes :=
  let lines := ["POST " ++ l.target ++ " HTTP/1.1", "Host: " ++ l.host ++ ":" ++ toString l.port,
    "Content-Type: application/octet-stream", "Content-Length: " ++ toString body.length,
    "Connection: close", "", ""]
  utf8 ("\r\n".intercalate lines) ++ body

end RestEndpoint

namespace RestResponse

/-- Splits a line off; it ends in a line feed, before which a carriage return may stand. -/
def splitLine : Bytes → Option (List Char × Bytes)
  | [] => none
  | b :: rest =>
    if b = 10 then some ([], rest)
    else match splitLine rest with
      | none => none
      | some (line, rest) =>
        if b = 13 && line.isEmpty then some ([], rest)
        else some (Char.ofNat b.toNat :: line, rest)

/-- Header fields with their names in small letters, and what follows the empty line. -/
def splitHeaders : Nat → Bytes → Option (List (String × String) × Bytes)
  | 0, _ => none
  | fuel + 1, message => do
    let (line, rest) ← splitLine message
    if line.isEmpty then return ([], rest)
    let name := Target.lowerAscii (line.takeWhile (· ≠ ':'))
    let value := ((line.dropWhile (· ≠ ':')).drop 1).dropWhile (· = ' ')
    let (fields, rest) ← splitHeaders fuel rest
    return ((name, String.ofList value) :: fields, rest)

def statusOf (line : List Char) : Option Nat := do
  if !"HTTP/1.".toList.isPrefixOf line then none
  match Text.readDigits 10 1000 0 (((line.dropWhile (· ≠ ' ')).drop 1).take 3) with
  | .ok status => if 100 ≤ status then some status else none
  | .error _ => none

def joinChunks : Nat → Bytes → Option Bytes
  | 0, _ => none
  | fuel + 1, message => do
    let (line, rest) ← splitLine message
    let digits := line.takeWhile fun c => (Text.digitValue? 16 c).isSome
    match Text.readDigits 16 (wordCount 8) 0 digits with
    | .error _ => none
    | .ok 0 => if digits.isEmpty then none else some []
    | .ok n =>
      if rest.length < n then none
      else
        let (_, next) ← splitLine (rest.drop n)
        return rest.take n ++ (← joinChunks fuel next)

/-- Statuses whose answers have no body, whatever is announced. -/
def hasNoBody (status : Nat) : Bool := status = 204 || status = 304

/-- The body that the header fields announce; all that is left if they announce none. -/
def bodyOf (status : Nat) (fields : List (String × String)) (rest : Bytes) : Option Bytes :=
  if hasNoBody status then some []
  else if fields.lookup "transfer-encoding" = some "chunked" then joinChunks (rest.length + 1) rest
  else match fields.lookup "content-length" with
    | none => some rest
    | some text =>
      match Text.readDigits 10 (wordCount 8) 0 text.toList with
      | .ok n => if n ≤ rest.length then some (rest.take n) else none
      | .error _ => none

def ofMessage? (message : Bytes) : Option RestResponse := do
  let (line, rest) ← splitLine message
  let status ← statusOf line
  let (fields, rest) ← splitHeaders (rest.length + 1) rest
  return ⟨status, ← bodyOf status fields rest⟩

end RestResponse

end SensorLink
