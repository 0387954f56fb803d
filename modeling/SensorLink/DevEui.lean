import SensorLink.Bytes
import SensorLink.Text.Blank
import SensorLink.Text.Quoted

namespace SensorLink

structure DevEui where
  value : UInt64
deriving DecidableEq, Repr

structure InvalidDevEui where
  text : String
deriving DecidableEq, Repr

def InvalidDevEui.message (e : InvalidDevEui) : String :=
  "invalid DevEUI " ++ Text.quoted e.text ++ ": expected up to 16 hex digits"

namespace DevEui

def byteWidth : Nat := 8

def toLeBytes (e : DevEui) : Bytes := leBytes byteWidth e.value.toNat

def ofLeBytes (bs : Bytes) : DevEui := ⟨.ofNat (SensorLink.ofLeBytes bs)⟩

def display (e : DevEui) : String := String.ofList (Text.upperHex e.value.toNat)

def inspect (e : DevEui) : String := "DevEui(" ++ toString e.value.toNat ++ ")"

/-- What is left of a text once white space and every leading `0x`, then every `0X`, are gone. -/
def digitsOf (s : List Char) : List Char :=
  Text.dropPairs '0' 'X' (Text.dropPairs '0' 'x' (Text.trim s))

def parse (s : String) : Except InvalidDevEui DevEui :=
  let digits := digitsOf s.toList
  if digits.isEmpty || 16 < (String.ofList digits).utf8ByteSize then .error ⟨s⟩
  else match Text.readUnsigned 16 (wordCount 8) digits with
    | .ok n => .ok ⟨.ofNat n⟩
    | .error _ => .error ⟨s⟩

def sort (es : List DevEui) : List DevEui :=
  (es.mergeSort fun a b => a.value ≤ b.value).eraseReps

end DevEui

end SensorLink
