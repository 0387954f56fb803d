import SensorLink.Mount

namespace SensorLink

/-- One call of a partition driver, and whether the driver was told to refuse it. -/
structure MountCall where
  mounting : Bool
  base : Path
  label : String
  refused : Bool
deriving DecidableEq, Repr

def MountCall.line (c : MountCall) : String :=
  (if c.mounting then "mount " else "unmount ") ++ c.base.toString ++ " " ++ c.label ++
    (if c.refused then " failed" else "")

/-- A driver whose calls go through or are refused as told; with empty queues they go through. -/
structure ScriptedBackend where
  mounts : List Bool := []
  unmounts : List Bool := []
  directory : Bool := true
  calls : List MountCall := []
deriving DecidableEq, Repr

namespace ScriptedBackend

def mount (b : ScriptedBackend) (base : Path) (label : String) (t : FileTree) :
    Except IoError Unit × ScriptedBackend × FileTree :=
  let refused := b.mounts.head? = some false
  let b := { b with mounts := b.mounts.tail, calls := b.calls ++ [⟨true, base, label, refused⟩] }
  if refused then (.error .noSuchPartition, b, t)
  else if b.directory then
    let (result, t) := t.mkdirs base
    (result, b, t)
  else (.ok (), b, t)

def unmount (b : ScriptedBackend) (base : Path) (label : String) (t : FileTree) :
    Except IoError Unit × ScriptedBackend × FileTree :=
  let refused := b.unmounts.head? = some false
  let b := { b with unmounts := b.unmounts.tail, calls := b.calls ++ [⟨false, base, label, refused⟩] }
  (if refused then .error .deviceBusy else .ok (), b, t)

instance : MountBackend ScriptedBackend := ⟨mount, unmount⟩

end ScriptedBackend

end SensorLink
