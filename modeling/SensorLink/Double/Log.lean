import SensorLink.Double.Backend
import SensorLink.Double.Recorder
import SensorLink.Storage

namespace SensorLink

def MountPoint.takeCalls (m : MountPoint ScriptedBackend) :
    List MountCall × MountPoint ScriptedBackend :=
  match m.owner with
  | .library backend label =>
    (backend.calls, { m with owner := .library { backend with calls := [] } label })
  | .application => ([], m)

structure StorageLog where
  calls : List MountCall
  states : List Bytes
deriving DecidableEq, Repr

namespace Storage

def takeLog (s : Storage ScriptedBackend NotingRecorder) :
    StorageLog × Storage ScriptedBackend NotingRecorder :=
  let calls := (s.mountPoint.map (·.takeCalls.1)).getD []
  let mountPoint := s.mountPoint.map (·.takeCalls.2)
  match s.backing with
  | .callback r latest =>
    (⟨calls, r.states⟩, { s with mountPoint, backing := .callback { r with states := [] } latest })
  | .file _ => (⟨calls, []⟩, { s with mountPoint })

def acceptance? (s : Storage ScriptedBackend NotingRecorder) : Option Acceptance :=
  match s.backing with
  | .callback r _ => some r.acceptance
  | .file _ => none

def setAccept (accept : Bool) (s : Storage ScriptedBackend NotingRecorder) :
    Storage ScriptedBackend NotingRecorder :=
  match s.backing with
  | .callback ⟨.fixed _, states⟩ latest =>
    { s with backing := .callback ⟨.fixed accept, states⟩ latest }
  | _ => s

end Storage

end SensorLink
