import SensorLink.DevEui
import SensorLink.Engine
import SensorLink.Storage

namespace SensorLink

inductive SensorError where
  | persistence (e : PersistenceError)
  | bridge (e : BridgeError)
  | engine (e : EngineError)
  /-- The storage refused a new state that the engine already holds. -/
  | stateNotPersisted
deriving DecidableEq, Repr

namespace SensorError

def message : SensorError → String
  | .persistence e => e.message
  | .bridge e => e.message
  | .engine e => e.message
  | .stateNotPersisted =>
    "client state was not persisted; recorded state diverges from the channel"

def isExit : SensorError → Bool
  | .bridge e => e.isExit
  | .engine e => e.isExit
  | _ => false

end SensorError

structure Session (β υ τ : Type) where
  devEui : DevEui
  storage : Storage β υ
  bridge : Bridge τ

namespace Session

variable {β υ τ ε : Type}

def inspect (s : Session β υ τ) : String :=
  Text.inspectOpenRecord "SensorManagerSession"
    [("dev_eui", s.devEui.inspect), ("persistence", s.storage.inspect)]

def request [Transport τ] (s : Session β υ τ) (bytes : Bytes) : Except BridgeError Bytes × Session β υ τ :=
  let (result, bridge) := s.bridge.request bytes
  (result, { s with bridge })

variable [MountBackend β]

/-- Opens a session on a storage that can be prepared; otherwise the storage is closed again. -/
def make (devEui : DevEui) (config : StorageConfig β υ) (files : FileTree) (transport : τ) :
    Except (SensorError × Storage β υ) (Session β υ τ) :=
  match (Storage.make config files).prepare with
  | (.ok (), storage) => .ok ⟨devEui, storage, { transport }⟩
  | (.error e, storage) => .error (.persistence e, storage.close)

def isInitialized (s : Session β υ τ) : Bool × Session β υ τ :=
  let (found, storage) := s.storage.isInitialized
  (found, { s with storage })

variable [StateRecorder υ]

def apply (s : Session β υ τ) (change : StateChange) :
    Except SensorError Unit × Session β υ τ :=
  match change.state? with
  | none => (.ok (), s)
  | some state =>
    let (stored, storage) := s.storage.persist state
    (if stored then .ok () else .error .stateNotPersisted, { s with storage })

variable [Transport τ] [Engine ε]

/-- Restores the current state into the engine, or enrolls where there is none. The result says
whether the device was enrolled. -/
def start (s : Session β υ τ) (e : ε) : Except SensorError Bool × Session β υ τ × ε :=
  match s.storage.load with
  | (.error err, storage) => (.error (.persistence err), { s with storage }, e)
  | (.ok (some state), storage) =>
    let (result, e) := Engine.restore e state
    ((result.mapError .engine).map fun _ => false, { s with storage }, e)
  | (.ok none, storage) =>
    match (Engine.enroll e).run s.bridge with
    | ((.error err, e), bridge) => (.error (.engine err), { s with storage, bridge }, e)
    | ((.ok state, e), bridge) =>
      let (result, s) := { s with storage, bridge }.apply (.updated state)
      (result.map fun _ => true, s, e)

def sendMessage (s : Session β υ τ) (e : ε) (payload : Bytes) :
    Except SensorError Unit × Session β υ τ × ε :=
  match (Engine.sendMessage e payload).run s.bridge with
  | ((.error err, e), bridge) => (.error (.engine err), { s with bridge }, e)
  | ((.ok change, e), bridge) =>
    let (result, s) := { s with bridge }.apply change
    (result, s, e)

end Session

end SensorLink
