import SensorLink.Mount

namespace SensorLink

inductive StorageKind where
  | file
  | callback
deriving DecidableEq, Repr

def StorageKind.inspect : StorageKind → String
  | .file => "VfsFile"
  | .callback => "Callback"

inductive Initialization where
  | unknown
  | notInitialized
  | initialized
deriving DecidableEq, Repr

def Initialization.inspect : Initialization → String
  | .unknown => "Unknown"
  | .notInitialized => "NotInitialized"
  | .initialized => "Initialized"

/-- The state recorded the previous time the callback ran; a present one is not empty. -/
inductive Seed where
  | notInitialized
  | initialized (latest : Bytes) (ne : latest ≠ [])
deriving DecidableEq

namespace Seed

def make : Initialization → Bytes → Except PersistenceError Seed
  | .unknown, _ => .error (.invalidConfig .seedUnknown)
  | .notInitialized, [] => .ok .notInitialized
  | .notInitialized, _ :: _ => .error (.invalidConfig .seedCarriesState)
  | .initialized, [] => .error (.invalidConfig .seedLacksState)
  | .initialized, b :: rest => .ok (.initialized (b :: rest) (List.cons_ne_nil b rest))

def state : Seed → Initialization
  | .notInitialized => .notInitialized
  | .initialized .. => .initialized

def latest? : Seed → Option Bytes
  | .notInitialized => none
  | .initialized latest _ => some latest

def inspect (s : Seed) : String :=
  Text.inspectRecord "CallbackSeed" [("state", s.state.inspect),
    ("latest", Text.inspectOption (s.latest?.map Text.inspectBytes))]

end Seed

/-- A durable recorder of states, run by the application. It answers `true` only once the state is
recorded; an empty state says that there is none any more. -/
class StateRecorder (υ : Type) where
  update : υ → Bytes → Bool × υ

structure Partition (β : Type) where
  base : Path
  label : String
  backend : β

namespace Partition

variable {β : Type}

def defaultBase : Path := .ofString "/spiflash"

def defaultLabel : String := "storage"

def atPath (base : Path) (backend : β) : Partition β := ⟨base, defaultLabel, backend⟩

def standard : Partition DirectoryBackend := atPath defaultBase {}

def mountPoint (p : Partition β) : MountPoint β :=
  { base := p.base, owner := .library p.backend p.label }

def inspect (p : Partition β) : String :=
  Text.inspectOpenRecord "LibraryPartition"
    [("base_path", p.base.inspect), ("partition_label", Text.quoted p.label)]

end Partition

/-- A state is kept in a file or with the application, on a filesystem that the library or the
application manages. -/
inductive StorageConfig (β υ : Type) where
  | fileLibrary (partition : Partition β)
  | fileApplication (path : Path)
  | callbackLibrary (partition : Partition β) (seed : Seed) (recorder : υ)
  /-- The path names a directory for the engine's own files; the storage never touches it. -/
  | callbackApplication (path : Option Path) (seed : Seed) (recorder : υ)

namespace StorageConfig

variable {β υ : Type}

def inApplicationDirectory (path : Path) : Except PersistenceError (StorageConfig β υ) :=
  if path.isEmpty then .error (.invalidConfig .pathMissing) else .ok (.fileApplication path)

def kind : StorageConfig β υ → StorageKind
  | .fileLibrary _ | .fileApplication _ => .file
  | .callbackLibrary .. | .callbackApplication .. => .callback

def ownership : StorageConfig β υ → Ownership
  | .fileLibrary _ | .callbackLibrary .. => .library
  | .fileApplication _ | .callbackApplication .. => .application

def inspect : StorageConfig β υ → String
  | .fileLibrary partition =>
    Text.inspectRecord "VfsLibraryManaged" [("partition", partition.inspect)]
  | .fileApplication path => Text.inspectRecord "VfsApplicationManaged" [("path", path.inspect)]
  | .callbackLibrary partition seed _ => Text.inspectOpenRecord "CallbackLibraryManaged"
      [("partition", partition.inspect), ("seed", seed.state.inspect)]
  | .callbackApplication path seed _ => Text.inspectOpenRecord "CallbackApplicationManaged"
      [("path", Text.inspectOption (path.map Path.inspect)), ("seed", seed.state.inspect)]

end StorageConfig

end SensorLink
