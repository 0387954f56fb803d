import SensorLink.Bytes
import SensorLink.IoError

namespace SensorLink.Settings

def documentText (contents : Except IoError Bytes) : Except IoError String := do
  match String.fromUTF8? (ByteArray.mk (← contents).toArray) with
  | some s => return s
  | none => throw .invalidText

/-- An environment from variables as they are stored; one that is not text counts as unset. -/
def environment (entries : List (String × Bytes)) (name : String) : Option String :=
  (entries.lookup name).bind fun value => (documentText (.ok value)).toOption

def isHttpUrl (url : String) : Bool := url.startsWith "http://" || url.startsWith "https://"

end SensorLink.Settings
