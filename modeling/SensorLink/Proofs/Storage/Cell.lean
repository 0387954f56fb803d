import SensorLink.Proofs.Storage.Mounting

namespace SensorLink

/-- What a cell holds, and the recorder beside it where the application records the states. -/
structure Cell (υ : Type) where
  reading : Except PersistenceError (Option Bytes)
  recorder : Option υ
  filled : reading ≠ .ok (some [])

/-- What a partition driver leaves of the record. `held` is what the partition's record reads; a
mounted partition shows it at the record's path, and only a write changes it. -/
structure KeepsRecord {β : Type} [MountBackend β] (base : Path) (label : String)
    (opened : β → FileTree → Prop)
    (held : β → FileTree → Except PersistenceError (Option Bytes)) : Prop where
  shows {b : β} {t : FileTree} (h : opened b t) :
    Record.readAt t (base.join Record.fileName) = held b t
  write {b : β} {t : FileTree} (h : opened b t) (state : Bytes) :
    opened b (Record.writeAt t (base.join Record.fileName) state).2
  mount_ok {b b' : β} {t t' : FileTree} (h : MountBackend.mount b base label t = (.ok (), b', t')) :
    opened b' t' ∧ held b' t' = held b t
  mount_error {b b' : β} {t t' : FileTree} {e : IoError}
    (h : MountBackend.mount b base label t = (.error e, b', t')) : held b' t' = held b t
  unmount_ok {b b' : β} {t t' : FileTree} (ho : opened b t)
    (h : MountBackend.unmount b base label t = (.ok (), b', t')) : held b' t' = held b t
  unmount_error {b b' : β} {t t' : FileTree} {e : IoError} (ho : opened b t)
    (h : MountBackend.unmount b base label t = (.error e, b', t')) :
    opened b' t' ∧ held b' t' = held b t

namespace StorageConfig

variable {β υ : Type}

/-- What a storage of the configuration holds at first. -/
def reading (held : β → FileTree → Except PersistenceError (Option Bytes)) (files : FileTree) :
    StorageConfig β υ → Except PersistenceError (Option Bytes)
  | .fileLibrary partition => held partition.backend files
  | .fileApplication path => Record.readAt files (path.join Record.fileName)
  | .callbackLibrary _ seed _ | .callbackApplication _ seed _ => .ok seed.latest?

def recorder? : StorageConfig β υ → Option υ
  | .fileLibrary _ | .fileApplication _ => none
  | .callbackLibrary _ _ recorder | .callbackApplication _ _ recorder => some recorder

def KeepsRecord [MountBackend β] (opened : β → FileTree → Prop)
    (held : β → FileTree → Except PersistenceError (Option Bytes)) : StorageConfig β υ → Prop
  | .fileLibrary partition => SensorLink.KeepsRecord partition.base partition.label opened held
  | _ => True

end StorageConfig

namespace Cell

variable {υ : Type} [StateRecorder υ]

def put (c : Cell υ) (result : Except PersistenceError Unit) (state : Bytes) : Cell υ where
  reading := match result with
    | .ok () => .ok (Record.content state)
    | .error _ => c.reading
  recorder := c.recorder.map fun r => (StateRecorder.update r state).2
  filled := by
    cases result with
    | ok u =>
      by_cases hs : state = [] <;> simp [Record.content, hs]
    | error e => exact c.filled

def persist (c : Cell υ) (mount result : Except PersistenceError Unit) (state : Bytes) : Cell υ :=
  match mount with
  | .ok () => c.put result state
  | .error _ => c

end Cell

namespace Storage

variable {β υ : Type}

/-- A call of a storage, or a restart: the storage is closed and opened again. -/
inductive Call where
  | prepare
  | release
  | isInitialized
  | load
  | tryPersist (state : Bytes)
  | persist (state : Bytes)
  | clear
  | reopen
deriving DecidableEq, Repr

variable [MountBackend β]

/-- A file storage that is closed, and opened again by its configuration on what it leaves; the
driver goes on. -/
def reopen (config : StorageConfig β υ) (s : Storage β υ) : Storage β υ :=
  match config, s.close with
  | .fileLibrary partition, ⟨_, some ⟨_, .library backend _, _⟩, files⟩ =>
    make (.fileLibrary { partition with backend }) files
  | .fileApplication path, ⟨_, _, files⟩ => make (.fileApplication path) files
  | _, _ => s

variable [StateRecorder υ]

def after (config : StorageConfig β υ) (s : Storage β υ) : Call → Storage β υ
  | .prepare => s.prepare.2
  | .release => s.release.2
  | .isInitialized => s.isInitialized.2
  | .load => s.load.2
  | .tryPersist state => (s.tryPersist state).2
  | .persist state => (s.persist state).2
  | .clear => s.clear.2
  | .reopen => s.reopen config

end Storage

def Cell.after {β υ : Type} [MountBackend β] [StateRecorder υ] (c : Cell υ) (s : Storage β υ) :
    Storage.Call → Cell υ
  | .tryPersist state | .persist state =>
    c.persist s.ensureMounted.1 (s.tryPersist state).1 state
  | .clear => c.persist s.ensureMounted.1 (s.tryPersist []).1 []
  | _ => c

namespace Storage

variable {β υ : Type} [MountBackend β] [StateRecorder υ]

def follow (config : StorageConfig β υ) : List Call → Storage β υ × Cell υ → Storage β υ × Cell υ
  | [], p => p
  | call :: rest, (s, c) => follow config rest (s.after config call, c.after s call)

/-- The storage answers as the cell does: what the mount on demand comes to, the cell decides the
rest, up to I/O errors of a persist. -/
structure Shows (s : Storage β υ) (c : Cell υ) : Prop where
  recorder : s.recorder? = c.recorder
  load : s.load.1 = s.ensureMounted.1.bind fun _ => c.reading
  isInitialized : s.isInitialized.1 = true ↔
    s.ensureMounted.1 = .ok () ∧ ∃ state, c.reading = .ok (some state)
  unmounted : ∀ e, s.ensureMounted.1 = .error e →
    (∃ path cause, e = .mount (.backend path cause)) ∧ ∀ state, (s.tryPersist state).1 = .error e
  updated : ∀ r state, c.recorder = some r → s.ensureMounted.1 = .ok () →
    (s.tryPersist state).1 =
      if (StateRecorder.update r state).1 then .ok () else .error .rejected
  persist : ∀ state, (s.persist state).1 = true ↔ (s.tryPersist state).1 = .ok ()
  clear : s.clear.1 = true ↔ (s.tryPersist []).1 = .ok ()

end Storage

end SensorLink
