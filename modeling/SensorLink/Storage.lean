import SensorLink.Record.File
import SensorLink.Storage.Config

namespace SensorLink

inductive Backing (υ : Type) where
  | file (path : Path)
  | callback (recorder : υ) (latest : Option Bytes)

/-- An open storage with the file tree that it works on. -/
structure Storage (β υ : Type) where
  backing : Backing υ
  mountPoint : Option (MountPoint β)
  files : FileTree

namespace Storage

variable {β υ : Type}

def make (config : StorageConfig β υ) (files : FileTree) : Storage β υ :=
  match config with
  | .fileLibrary partition =>
    ⟨.file (partition.base.join Record.fileName), some partition.mountPoint, files⟩
  | .fileApplication path =>
    ⟨.file (path.join Record.fileName), some { base := path, owner := .application }, files⟩
  | .callbackLibrary partition seed recorder =>
    ⟨.callback recorder seed.latest?, some partition.mountPoint, files⟩
  | .callbackApplication path seed recorder =>
    ⟨.callback recorder seed.latest?, path.map fun p => { base := p, owner := .application }, files⟩

def kind (s : Storage β υ) : StorageKind :=
  match s.backing with
  | .file _ => .file
  | .callback .. => .callback

/-- The directory that the engine may use for files of its own. -/
def directory? (s : Storage β υ) : Option Path := s.mountPoint.map (·.base)

def recordPath? (s : Storage β υ) : Option Path :=
  match s.backing with
  | .file path => some path
  | .callback .. => none

def inspect (s : Storage β υ) : String :=
  Text.inspectOpenRecord "ClientStatePersistenceAdapter" [("kind", s.kind.inspect),
    ("fs", Text.inspectOption (s.mountPoint.map MountPoint.inspect))]

variable [MountBackend β]

def withPartition (s : Storage β υ)
    (run : MountPoint β → FileTree → Except MountError Unit × MountPoint β × FileTree) :
    Except PersistenceError Unit × Storage β υ :=
  match s.mountPoint with
  | none => (.ok (), s)
  | some m =>
    if m.ownsMount then
      let (result, m, files) := run m s.files
      (result.mapError .mount, { s with mountPoint := some m, files })
    else (.ok (), s)

def ensureMounted (s : Storage β υ) : Except PersistenceError Unit × Storage β υ :=
  s.withPartition MountPoint.mount

/-- Mounts the library's partition, or checks that the application's directory is there. -/
def prepare (s : Storage β υ) : Except PersistenceError Unit × Storage β υ :=
  match s.mountPoint, s.backing with
  | some ⟨base, .application, _⟩, .file _ =>
    if s.files.isDir base then (.ok (), s) else (.error (.noDirectory base), s)
  | _, _ => s.ensureMounted

/-- Releases the mount if the library took one. -/
def release (s : Storage β υ) : Except PersistenceError Unit × Storage β υ :=
  s.withPartition MountPoint.unmount

/-- Ends the use of a storage; a mount that cannot be released stays. -/
def close (s : Storage β υ) : Storage β υ := s.release.2

/-- The current state, if there is one. -/
def load (s : Storage β υ) : Except PersistenceError (Option Bytes) × Storage β υ :=
  match s.ensureMounted with
  | (.error e, s) => (.error e, s)
  | (.ok (), s) =>
    match s.backing with
    | .file path => (Record.readAt s.files path, s)
    | .callback _ latest => (.ok latest, s)

/-- Whether there is a current state; one that cannot be read counts as none. -/
def isInitialized (s : Storage β υ) : Bool × Storage β υ :=
  match s.load with
  | (.ok state, s) => (state.isSome, s)
  | (.error _, s) => (false, s)

def queryInitialized (config : StorageConfig β υ) (files : FileTree) : Bool × Storage β υ :=
  match (make config files).prepare with
  | (.error _, s) => (false, s.close)
  | (.ok (), s) =>
    let (found, s) := s.isInitialized
    (found, s.close)

variable [StateRecorder υ]

/-- Makes `state` the current state; an empty one clears it. -/
def tryPersist (s : Storage β υ) (state : Bytes) : Except PersistenceError Unit × Storage β υ :=
  match s.ensureMounted with
  | (.error e, s) => (.error e, s)
  | (.ok (), s) =>
    match s.backing with
    | .file path =>
      let (result, files) := Record.writeAt s.files path state
      (result, { s with files })
    | .callback recorder latest =>
      match StateRecorder.update recorder state with
      | (false, recorder) => (.error .rejected, { s with backing := .callback recorder latest })
      | (true, recorder) =>
        let latest := if state = [] then none else some state
        (.ok (), { s with backing := .callback recorder latest })

/-- Whether `state` became the current state; if not, the previous one stays. -/
def persist (s : Storage β υ) (state : Bytes) : Bool × Storage β υ :=
  let (result, s) := s.tryPersist state
  (result.isOk, s)

def clear (s : Storage β υ) : Bool × Storage β υ := s.persist []

end Storage

end SensorLink
