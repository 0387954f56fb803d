import SensorLink.Bytes

namespace SensorLink

inductive RecordFault where
  | lengthCut (found : Nat)
  | lengthDiffers (declared found : Nat)
  | lengthTooWide (length : Nat)
deriving DecidableEq, Repr

namespace Record

def lengthWidth : Nat := 4

def fileName : String := "user-state-sensor.bin"

end Record

def RecordFault.message : RecordFault → String
  | .lengthCut found =>
    "truncated length field: " ++ toString found ++ " of " ++ toString Record.lengthWidth ++ " bytes"
  | .lengthDiffers declared found =>
    "length field says " ++ toString declared ++ " bytes, found " ++ toString found
  | .lengthTooWide length => "state of " ++ toString length ++ " bytes does not fit the length field"

namespace Record

/-- The length of the state in four bytes, least significant first, and the state. -/
def encode (state : Bytes) : Except RecordFault Bytes :=
  if state.length < wordCount lengthWidth then .ok (leBytes lengthWidth state.length ++ state)
  else .error (.lengthTooWide state.length)

/-- Accepts a record only if the declared length is that of all the bytes behind it. -/
def decode (record : Bytes) : Except RecordFault Bytes :=
  if record.length < lengthWidth then .error (.lengthCut record.length)
  else
    let declared := ofLeBytes (record.take lengthWidth)
    let state := record.drop lengthWidth
    if state.length = declared then .ok state
    else .error (.lengthDiffers declared state.length)

end Record

end SensorLink
