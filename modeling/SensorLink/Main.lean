import SensorLink.Connector
import SensorLink.Relay.Launch
import SensorLink.Rest.Message
import Std.Async.DNS
import Std.Async.Signal
import Std.Async.TCP
import Std.Async.Timer

namespace SensorLink.Relay

open Std.Async (Async)
open Std.Async.TCP.Socket (Client Server)

/-- The failure with a number that may be reported with its sign changed. -/
def numbered (n : UInt32) : Option IoError :=
  IoError.ofNumber? (if n < 0x80000000 then n else 0 - n).toNat

def faultOf : IO.Error → Option IoError
  | .noFileOrDirectory _ number _ | .inappropriateType _ number _ | .alreadyExists _ number _
  | .resourceBusy number _ | .otherError number _ | .unsupportedOperation number _ =>
    numbered number
  | _ => none

def attempt {α : Type} (act : IO α) : IO (Except IoError α) := do
  try return .ok (← act)
  catch e =>
    match faultOf e with
    | some fault => return .error fault
    | none => throw e

def netAddress : SocketAddress → Std.Net.SocketAddress
  | .v4 octets port =>
    let octet := fun (i : Nat) => UInt8.ofNat (octets.getD i 0)
    .v4 ⟨.ofParts (octet 0) (octet 1) (octet 2) (octet 3), UInt16.ofNat port⟩
  | .v6 groups _ port =>
    let group := fun (i : Nat) => UInt16.ofNat (groups.getD i 0)
    .v6 ⟨.ofParts (group 0) (group 1) (group 2) (group 3) (group 4) (group 5) (group 6) (group 7),
      UInt16.ofNat port⟩

def readAll (c : Client) : Async Bytes := do
  let mut received := #[]
  repeat
    match ← c.recv? 65536 with
    | some data => received := received ++ data.data
    | none => break
  return received.toList

def exchange (e : RestEndpoint) (body : Bytes) : Async (Option RestResponse) := do
  try
    let some ip := (← Std.Async.DNS.getAddrInfo e.host "" (some .ipv4))[0]? | return none
    let address : Std.Net.SocketAddress := match ip with
      | .v4 a => .v4 ⟨a, UInt16.ofNat e.port⟩
      | .v6 a => .v6 ⟨a, UInt16.ofNat e.port⟩
    let c ← Client.mk
    c.connect address
    c.send ⟨(e.postMessage body).toArray⟩
    return RestResponse.ofMessage? (← readAll c)
  catch _ => return none

def post (c : RestClient) (limit : Option Nat) (r : Request) : Async (Option RestResponse) :=
  match RestEndpoint.ofUrl? (c.requestUrl r.devEui), limit with
  | none, _ => return none
  | some e, none => exchange e r.payload
  | some e, some seconds => Async.race (exchange e r.payload) do
      Std.Async.sleep (.ofNat (seconds * 1000))
      return none

/-- Serves one sensor; `buffer` holds what arrived and is not yet part of a whole frame. -/
partial def serve (c : Connector) (limit : Option Nat) (sensor : Client) (buffer : Bytes) :
    Async Unit := do
  match c.codec.splitRequest buffer with
  | .error _ => sensor.shutdown
  | .ok none =>
    match ← sensor.recv? 2048 with
    | some data => serve c limit sensor (buffer ++ data.toList)
    | none => return
  | .ok (some (r, rest)) =>
    match c.respond (← post c.client limit r) with
    | some frame =>
      sensor.send ⟨frame.toArray⟩
      serve c limit sensor rest
    | none => sensor.shutdown

partial def acceptAll (c : Connector) (limit : Option Nat) (server : Server) : Async Unit := do
  let sensor ← server.accept
  Std.Async.background (serve c limit sensor [])
  acceptAll c limit server

def run (s : RelaySettings) (server : Server) : IO Unit := do
  let interrupt ← Std.Async.Signal.Waiter.mk .sigint false
  let interrupted ← interrupt.wait
  let relaying ← (acceptAll { client := .ofUrl s.bridgeUrl } s.timeout? server).asTask
  discard <| interrupted.block
  IO.cancel relaying

end SensorLink.Relay

open SensorLink in
def main (arguments : List String) : IO UInt32 := do
  let environment ← RelaySettings.variableNames.filterMapM fun name => do
    return (← IO.getEnv name).map (name, ·)
  let server ← Std.Async.TCP.Socket.Server.mk
  let launched ← launch arguments
    (fun p => Relay.attempt (return (← IO.FS.readBinFile p.toString).toList))
    (fun name => List.lookup name environment)
    fun a => Relay.attempt do
      server.bind (Relay.netAddress a)
      server.listen 128
  match launched with
  | .help => IO.println RelayOptions.usage
  | .misuse => IO.eprintln RelayOptions.usage
  | .failed e => IO.eprintln e.line
  | .listening s => Relay.run s server
  return launched.exitCode.toUInt32
