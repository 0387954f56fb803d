import SensorLink.Rest
import SensorLink.Settings.Sensor

namespace SensorLink

inductive RestSetupError where
  | devEuiMissing
  | urlMissing
deriving DecidableEq, Repr

def RestSetupError.message : RestSetupError → String
  | .devEuiMissing => "config error: dev_eui is not set"
  | .urlMissing => "config error: bridge_url is not set"

/-- The transport of a sensor with these settings, which need not be valid otherwise. -/
def SensorSettings.restTransport {σ : Type} (s : SensorSettings) (service : σ) :
    Except RestSetupError (RestTransport σ) :=
  match s.devEui, s.bridgeUrl with
  | none, _ => .error .devEuiMissing
  | some _, none => .error .urlMissing
  | some devEui, some url => .ok ⟨.ofUrl url, devEui, service⟩

end SensorLink
