import SensorLink.Settings.Document
import SensorLink.Toml
import SensorLink.SocketAddress

namespace SensorLink

structure RelaySettings where
  listen : SocketAddress := .v4 [0, 0, 0, 0] 50001
  bridgeUrl : String := "http://127.0.0.1:50000"
  /-- Seconds that one request to the bridge may take; zero sets no limit. -/
  timeoutSeconds : Nat := 30
deriving DecidableEq, Repr

inductive RelayFault where
  | listenText
  | timeoutText (fault : Text.NumberFault)
  | urlScheme (url : String)
deriving DecidableEq, Repr

def RelayFault.message : RelayFault → String
  | .listenText => "Invalid listen_addr: invalid socket address syntax"
  | .timeoutText fault => "Invalid request_timeout_secs: " ++ fault.message
  | .urlScheme url => "bridge_url must be an http(s) URL: " ++ Text.quoted url

inductive RelaySettingsError where
  | io (e : IoError)
  | notParsed
  | invalid (fault : RelayFault)
deriving DecidableEq, Repr

def RelaySettingsError.message : RelaySettingsError → String
  | .io e => "IO error: " ++ e.message
  | .notParsed => "TOML parse error"
  | .invalid fault => "Invalid configuration: " ++ fault.message

namespace RelaySettings

def readAddress : Settings.Read SocketAddress := fun v => do
  match SocketAddress.parse (← Settings.readText v) with
  | some a => return a
  | none => throw .other

def fields : List (Settings.Field RelaySettings) :=
  [Settings.field "listen_addr" readAddress fun s listen => { s with listen },
    Settings.field "bridge_url" Settings.readText fun s bridgeUrl => { s with bridgeUrl },
    Settings.field "request_timeout_secs" Settings.readCount fun s timeoutSeconds =>
      { s with timeoutSeconds }]

def read (f : Settings.Format) : Settings.Read RelaySettings := Settings.readRecord f fields {}

def validate (s : RelaySettings) : Except RelayFault Unit :=
  if Settings.isHttpUrl s.bridgeUrl then .ok () else .error (.urlScheme s.bridgeUrl)

def timeout? (s : RelaySettings) : Option Nat :=
  if s.timeoutSeconds = 0 then none else some s.timeoutSeconds

def variableNames : List String :=
  ["SENSOR_RELAY_LISTEN_ADDR", "SENSOR_RELAY_BRIDGE_URL", "SENSOR_RELAY_REQUEST_TIMEOUT_SECS"]

/-- Overrides from the environment in a fixed order. The first one that cannot be read is the
fault; those before it stay. -/
def applyEnvironment (s : RelaySettings) (env : String → Option String) :
    Except RelayFault Unit × RelaySettings :=
  match (env "SENSOR_RELAY_LISTEN_ADDR").map SocketAddress.parse with
  | some none => (.error .listenText, s)
  | address =>
    let s := { s with listen := address.join.getD s.listen,
                      bridgeUrl := (env "SENSOR_RELAY_BRIDGE_URL").getD s.bridgeUrl }
    match (env "SENSOR_RELAY_REQUEST_TIMEOUT_SECS").map Text.readUInt64 with
    | none => (.ok (), s)
    | some (.ok n) => (.ok (), { s with timeoutSeconds := n.toNat })
    | some (.error fault) => (.error (.timeoutText fault), s)

/-- The validated settings in a file; `contents` is what reading it gives. -/
def load (contents : Except IoError Bytes) : Except RelaySettingsError RelaySettings := do
  let document ← (Settings.documentText contents).mapError .io
  match (Toml.parse document).map (read .toml) with
  | some (.ok s) =>
    (s.validate).mapError .invalid
    return s
  | _ => throw .notParsed

end RelaySettings

end SensorLink
