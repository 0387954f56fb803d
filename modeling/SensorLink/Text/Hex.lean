import SensorLink.Bytes
import SensorLink.Text.Number

namespace SensorLink.Text

def hexOfBytes (bs : Bytes) : String :=
  String.ofList (bs.flatMap fun b => [lowerHexDigit (b.toNat / 16), lowerHexDigit (b.toNat % 16)])

def bytesOfHex? : List Char → Option Bytes
  | [] => some []
  | [_] => none
  | a :: b :: rest => do
    let high ← digitValue? 16 a
    let low ← digitValue? 16 b
    return UInt8.ofNat (high * 16 + low) :: (← bytesOfHex? rest)

end SensorLink.Text
