import SensorLink.Files.Path
import SensorLink.SocketAddress

namespace SensorLink

structure RelayOptions where
  config : Option Path := none
  listen : Option SocketAddress := none
  bridgeUrl : Option String := none
  logLevel : Option String := none
deriving DecidableEq, Repr

inductive Invocation where
  | help
  /-- An unknown, repeated or malformed argument comes first. -/
  | misuse
  | run (options : RelayOptions)
deriving DecidableEq, Repr

namespace RelayOptions

inductive Name where
  | config
  | listen
  | bridgeUrl
  | logLevel
deriving DecidableEq, Repr

def Name.ofLong? : String → Option Name
  | "config" => some .config
  | "listen-addr" => some .listen
  | "bridge-url" => some .bridgeUrl
  | "log-level" => some .logLevel
  | _ => none

def Name.ofShort? : Char → Option Name
  | 'c' => some .config
  | 'l' => some .listen
  | 'b' => some .bridgeUrl
  | _ => none

inductive Argument where
  | help
  | name (n : Name)
  | valued (n : Name) (value : String)
  | unknown
deriving DecidableEq, Repr

def Argument.ofLong (s : List Char) : Argument :=
  let name := String.ofList (s.takeWhile (· ≠ '='))
  match Name.ofLong? name, s.dropWhile (· ≠ '=') with
  | some n, [] => .name n
  | some n, _ :: value => .valued n (String.ofList value)
  | none, [] => if name = "help" then .help else .unknown
  | none, _ => .unknown

def Argument.ofString (s : String) : Argument :=
  match s.toList with
  | '-' :: '-' :: rest => ofLong rest
  | '-' :: 'h' :: _ => .help
  | '-' :: c :: rest =>
    match Name.ofShort? c, rest with
    | none, _ => .unknown
    | some n, [] => .name n
    | some n, '=' :: value => .valued n (String.ofList value)
    | some n, value => .valued n (String.ofList value)
  | _ => .unknown

/-- Whether an argument cannot be the value of the option before it. -/
def isOption (s : String) : Bool := s.startsWith "-" && s ≠ "-"

def set (o : RelayOptions) (n : Name) (value : String) : Option RelayOptions :=
  match n with
  | .config =>
    if o.config.isNone ∧ value ≠ "" then some { o with config := some (.ofString value) } else none
  | .listen =>
    match o.listen, SocketAddress.parse value with
    | none, some a => some { o with listen := some a }
    | _, _ => none
  | .bridgeUrl => if o.bridgeUrl.isNone then some { o with bridgeUrl := some value } else none
  | .logLevel => if o.logLevel.isNone then some { o with logLevel := some value } else none

/-- Reads arguments from the left. Two dashes end the options, and nothing may follow them. -/
def ofArguments (o : RelayOptions) : List String → Invocation
  | [] => .run o
  | arg :: rest =>
    if arg = "--" then if rest.isEmpty then .run o else .misuse
    else match Argument.ofString arg, rest with
      | .help, _ => .help
      | .unknown, _ => .misuse
      | .valued n value, rest =>
        match o.set n value with
        | some o => o.ofArguments rest
        | none => .misuse
      | .name n, value :: rest =>
        if isOption value then .misuse
        else match o.set n value with
          | some o => o.ofArguments rest
          | none => .misuse
      | .name _, [] => .misuse

def usage : String :=
  "\n".intercalate [
    "Relays socket-framed sensor requests to the bridge's LoRaWAN REST endpoint",
    "",
    "Usage: sensor-relay [OPTIONS]",
    "",
    "Options:",
    "  -c, --config <CONFIG>            Configuration file path",
    "  -l, --listen-addr <LISTEN_ADDR>  Address sensors connect to",
    "  -b, --bridge-url <BRIDGE_URL>    Base URL of the bridge",
    "      --log-level <LOG_LEVEL>      Log level",
    "  -h, --help                       Print help"]

end RelayOptions

end SensorLink
