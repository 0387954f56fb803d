import SensorLink.Files.Calls
import SensorLink.Storage.Error

namespace SensorLink

inductive Ownership where
  | library
  | application
deriving DecidableEq, Repr

namespace Ownership

def name : Ownership → String
  | .library => "library-managed"
  | .application => "application-managed"

def inspect : Ownership → String
  | .library => "LibraryManaged"
  | .application => "ApplicationManaged"

end Ownership

/-- A driver of partitions. What it does to the file tree is its own affair. -/
class MountBackend (β : Type) where
  mount : β → Path → String → FileTree → Except IoError Unit × β × FileTree
  unmount : β → Path → String → FileTree → Except IoError Unit × β × FileTree

/-- A partition that is a plain directory, made when it is mounted. -/
structure DirectoryBackend where
deriving DecidableEq, Repr

instance : MountBackend DirectoryBackend where
  mount b base _ t := let (result, t) := t.mkdirs base; (result, b, t)
  unmount b _ _ t := (.ok (), b, t)

inductive Owner (β : Type) where
  | library (backend : β) (label : String)
  | application

/-- Only a partition that the library owns is mounted and unmounted. -/
structure MountPoint (β : Type) where
  base : Path
  owner : Owner β
  mounted : Bool := false

namespace MountPoint

variable {β : Type}

def ownership (m : MountPoint β) : Ownership :=
  match m.owner with
  | .library .. => .library
  | .application => .application

def ownsMount (m : MountPoint β) : Bool := m.ownership == .library

def inspect (m : MountPoint β) : String :=
  Text.inspectRecord "FilesystemOwnershipManager" [("base_path", m.base.inspect),
    ("ownership", m.ownership.inspect), ("mounted", toString m.mounted)]

variable [MountBackend β]

def mount (m : MountPoint β) (t : FileTree) : Except MountError Unit × MountPoint β × FileTree :=
  match m.owner with
  | .application => (.error (.notOwner m.base), m, t)
  | .library backend label =>
    if m.mounted then (.ok (), m, t)
    else match MountBackend.mount backend m.base label t with
      | (.ok (), backend, t) => (.ok (), { m with owner := .library backend label, mounted := true }, t)
      | (.error e, backend, t) =>
        (.error (.backend m.base e), { m with owner := .library backend label }, t)

def unmount (m : MountPoint β) (t : FileTree) : Except MountError Unit × MountPoint β × FileTree :=
  match m.owner with
  | .application => (.ok (), m, t)
  | .library backend label =>
    if !m.mounted then (.ok (), m, t)
    else match MountBackend.unmount backend m.base label t with
      | (.ok (), backend, t) =>
        (.ok (), { m with owner := .library backend label, mounted := false }, t)
      | (.error e, backend, t) =>
        (.error (.backend m.base e), { m with owner := .library backend label }, t)

end MountPoint

end SensorLink
