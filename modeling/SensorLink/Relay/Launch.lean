import SensorLink.Relay.Options
import SensorLink.Settings.Relay

namespace SensorLink

inductive LaunchError where
  | settings (e : RelaySettingsError)
  | bind (e : IoError)
deriving DecidableEq, Repr

def LaunchError.message : LaunchError → String
  | .settings e => e.message
  | .bind e => e.message

def LaunchError.line (e : LaunchError) : String := "Error: " ++ e.message

inductive Launch where
  | help
  | misuse
  | failed (e : LaunchError)
  | listening (settings : RelaySettings)
deriving DecidableEq, Repr

def Launch.exitCode : Launch → Nat
  | .help => 0
  | .misuse => 2
  | .failed _ => 1
  | .listening _ => 0

namespace RelayOptions

/-- Settings under these options; `contents` is what reading the configuration file gives. -/
def settings (o : RelayOptions) (contents : Option (Except IoError Bytes))
    (env : String → Option String) : Except RelaySettingsError RelaySettings := do
  let s ← match contents with
    | some file => RelaySettings.load file
    | none => pure {}
  let (read, s) := s.applyEnvironment env
  read.mapError .invalid
  let s := { s with listen := o.listen.getD s.listen, bridgeUrl := o.bridgeUrl.getD s.bridgeUrl }
  (s.validate).mapError .invalid
  return s

end RelayOptions

/-- What a start comes to. `contents` reads a file, and `bind` listens on an address; neither is
done unless its turn comes. -/
def launch {m : Type → Type} [Monad m] (arguments : List String)
    (contents : Path → m (Except IoError Bytes)) (env : String → Option String)
    (bind : SocketAddress → m (Except IoError Unit)) : m Launch := do
  match RelayOptions.ofArguments {} arguments with
  | .help => return .help
  | .misuse => return .misuse
  | .run o =>
    let file ← match o.config with
      | some p => some <$> contents p
      | none => pure none
    match o.settings file env with
    | .error e => return .failed (.settings e)
    | .ok s =>
      match ← bind s.listen with
      | .error e => return .failed (.bind e)
      | .ok () => return .listening s

end SensorLink
