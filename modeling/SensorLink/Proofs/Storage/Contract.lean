import SensorLink.Double.Recorder
import SensorLink.Proofs.Storage.Drivers

namespace SensorLink

namespace Storage

variable {β υ : Type}

/-- The storage, opened by the configuration, holds what the cell holds. -/
inductive Represents (opened : β → FileTree → Prop)
    (held : β → FileTree → Except PersistenceError (Option Bytes)) :
    StorageConfig β υ → Storage β υ → Cell υ → Prop where
  | library {partition : Partition β} {b : β} {mounted : Bool} {t : FileTree} {c : Cell υ}
      (ho : mounted = true → opened b t) (hh : held b t = c.reading) (hn : c.recorder = none) :
      Represents opened held (.fileLibrary partition)
        ⟨.file (partition.base.join Record.fileName),
          some ⟨partition.base, .library b partition.label, mounted⟩, t⟩ c
  | application {path : Path} {t : FileTree} {c : Cell υ}
      (hr : Record.readAt t (path.join Record.fileName) = c.reading) (hn : c.recorder = none) :
      Represents opened held (.fileApplication path)
        ⟨.file (path.join Record.fileName), some ⟨path, .application, false⟩, t⟩ c
  | callback {config : StorageConfig β υ} {recorder : υ} {latest : Option Bytes}
      {mountPoint : Option (MountPoint β)} {t : FileTree} {c : Cell υ}
      (hk : config.kind = .callback) (hl : .ok latest = c.reading)
      (hr : c.recorder = some recorder) :
      Represents opened held config ⟨.callback recorder latest, mountPoint, t⟩ c

namespace Represents

variable {opened : β → FileTree → Prop}
  {held : β → FileTree → Except PersistenceError (Option Bytes)}
  {config : StorageConfig β υ} {s s' : Storage β υ} {c : Cell υ}

theorem make {files : FileTree} (hc : c.reading = config.reading held files)
    (hr : c.recorder = config.recorder?) : Represents opened held config (make config files) c := by
  cases config with
  | fileLibrary partition => exact .library (by simp) hc.symm hr
  | fileApplication path => exact .application hc.symm hr
  | callbackLibrary partition seed recorder => exact .callback rfl hc.symm hr
  | callbackApplication path seed recorder => exact .callback rfl hc.symm hr

theorem recorder (h : Represents opened held config s c) : s.recorder? = c.recorder := by
  cases h with
  | library ho hh hn => exact hn.symm
  | application hr hn => exact hn.symm
  | callback hk hl hr => exact hr.symm

variable [MountBackend β]

theorem held_of_ready (h : Represents opened held config s c) (hk : config.KeepsRecord opened held)
    (hs : s.Ready) : s.held = c.reading := by
  cases h with
  | library ho hh hn => exact (hk.shows (ho (hs _ rfl rfl))).trans hh
  | application hr hn => exact hr
  | callback hk hl hr => exact hl

theorem mounting (h : Represents opened held config s c) (hk : config.KeepsRecord opened held)
    {result : Except PersistenceError Unit} (hm : Mounting s result s') :
    Represents opened held config s' c := by
  cases hm with
  | ready _ => exact h
  | mounted hm =>
    cases h with
    | library ho hh hn =>
      obtain ⟨ho', hh'⟩ := hk.mount_ok hm
      exact .library (fun _ => ho') (hh'.trans hh) hn
    | callback hk hl hr => exact .callback hk hl hr
  | failed hm =>
    cases h with
    | library ho hh hn => exact .library (by simp) ((hk.mount_error hm).trans hh) hn
    | callback hk hl hr => exact .callback hk hl hr

theorem releasing (h : Represents opened held config s c) (hk : config.KeepsRecord opened held)
    {result : Except PersistenceError Unit} (hm : Releasing s result s') :
    Represents opened held config s' c := by
  cases hm with
  | idle => exact h
  | unmounted hm =>
    cases h with
    | library ho hh hn => exact .library (by simp) ((hk.unmount_ok (ho rfl) hm).trans hh) hn
    | callback hk hl hr => exact .callback hk hl hr
  | failed hm =>
    cases h with
    | library ho hh hn =>
      obtain ⟨ho', hh'⟩ := hk.unmount_error (ho rfl) hm
      exact .library (fun _ => ho') (hh'.trans hh) hn
    | callback hk hl hr => exact .callback hk hl hr

theorem ensureMounted (h : Represents opened held config s c)
    (hk : config.KeepsRecord opened held) : Represents opened held config s.ensureMounted.2 c :=
  h.mounting hk s.ensureMounted_mounting

theorem prepare (h : Represents opened held config s c) (hk : config.KeepsRecord opened held) :
    Represents opened held config s.prepare.2 c := by
  unfold Storage.prepare
  split
  · split <;> exact h
  · exact h.ensureMounted hk

theorem load (h : Represents opened held config s c) (hk : config.KeepsRecord opened held) :
    Represents opened held config s.load.2 c := by
  have hm := h.ensureMounted hk
  rw [load_eq]
  rcases he : s.ensureMounted with ⟨_ | ⟨⟩, s₁⟩ <;> rw [he] at hm <;> exact hm

theorem isInitialized (h : Represents opened held config s c)
    (hk : config.KeepsRecord opened held) : Represents opened held config s.isInitialized.2 c := by
  have hl := h.load hk
  unfold Storage.isInitialized
  rcases hs : s.load with ⟨_ | state, s₁⟩ <;> rw [hs] at hl <;> exact hl

theorem reopen (h : Represents opened held config s c) (hk : config.KeepsRecord opened held) :
    Represents opened held config (s.reopen config) c := by
  have hr : Represents opened held config s.close c := h.releasing hk s.release_releasing
  unfold Storage.reopen
  generalize s.close = closed at hr ⊢
  cases hr with
  | library ho hh hn => exact .library (by simp) hh hn
  | application hr hn => exact .application hr hn
  | callback hkind hl hr =>
    -- a storage with a callback stays open
    cases config with
    | fileLibrary partition => cases hkind
    | fileApplication path => cases hkind
    | callbackLibrary partition seed recorder => exact h
    | callbackApplication path seed recorder => exact h

theorem load_eq (h : Represents opened held config s c) (hk : config.KeepsRecord opened held) :
    s.load.1 = s.ensureMounted.1.bind fun _ => c.reading := by
  have hm := s.ensureMounted_mounting
  have hrep := h.ensureMounted hk
  rw [Storage.load_eq]
  rcases he : s.ensureMounted with ⟨e | ⟨⟩, s₁⟩ <;> rw [he] at hm hrep
  · rfl
  · exact hrep.held_of_ready hk hm.ready_of_ok

variable [StateRecorder υ]

theorem store (h : Represents opened held config s c) (hk : config.KeepsRecord opened held)
    (hs : s.Ready) (state : Bytes) :
    Represents opened held config (s.store state).2 (c.put (s.store state).1 state) := by
  have hheld : (s.store state).2.held = (c.put (s.store state).1 state).reading := by
    rcases s.store_held state with ⟨hok, hdone⟩ | ⟨e, he, hkept⟩
    · rw [hok, hdone]
      rfl
    · rw [he, hkept, h.held_of_ready hk hs]
      rfl
  cases h with
  | @library partition b mounted t c ho hh hn =>
    -- the partition is mounted, so what the path reads is what the partition holds
    have ho' := hk.write (ho (hs _ rfl rfl)) state
    exact .library (fun _ => ho') ((hk.shows ho').symm.trans hheld) (by simp [Cell.put, hn])
  | application hr hn => exact .application hheld (by simp [Cell.put, hn])
  | @callback config recorder latest m t c hkind hl hr =>
    simp only [Storage.store] at hheld ⊢
    rcases hu : StateRecorder.update recorder state with ⟨_ | _, recorder'⟩
    · rw [hu] at hheld
      exact .callback hkind hheld (by simp [Cell.put, hr, hu])
    · rw [hu] at hheld
      exact .callback hkind hheld (by simp [Cell.put, hr, hu])

theorem tryPersist (h : Represents opened held config s c) (hk : config.KeepsRecord opened held)
    (state : Bytes) : Represents opened held config (s.tryPersist state).2
      (c.persist s.ensureMounted.1 (s.tryPersist state).1 state) := by
  have hm := h.ensureMounted hk
  have hmounting := s.ensureMounted_mounting
  rw [tryPersist_eq]
  rcases he : s.ensureMounted with ⟨e | ⟨⟩, s₁⟩ <;> rw [he] at hm hmounting
  · exact hm
  · exact hm.store hk hmounting.ready_of_ok state

theorem after (h : Represents opened held config s c) (hk : config.KeepsRecord opened held)
    (call : Call) : Represents opened held config (s.after config call) (c.after s call) := by
  cases call with
  | prepare => exact h.prepare hk
  | release => exact h.releasing hk s.release_releasing
  | isInitialized => exact h.isInitialized hk
  | load => exact h.load hk
  | tryPersist state => exact h.tryPersist hk state
  | persist state => exact h.tryPersist hk state
  | clear => exact h.tryPersist hk []
  | reopen => exact h.reopen hk

theorem follow (hk : config.KeepsRecord opened held) (calls : List Call) {p : Storage β υ × Cell υ}
    (h : Represents opened held config p.1 p.2) :
    Represents opened held config (follow config calls p).1 (follow config calls p).2 := by
  induction calls generalizing p with
  | nil => exact h
  | cons call rest ih => exact ih (h.after hk call)

theorem shows (h : Represents opened held config s c) (hk : config.KeepsRecord opened held) :
    Shows s c where
  recorder := h.recorder
  load := h.load_eq hk
  isInitialized := by
    rw [isInitialized_iff, h.load_eq hk]
    rcases s.ensureMounted with ⟨e | ⟨⟩, s₁⟩ <;> simp [Except.bind]
  unmounted e he := by
    have hm := s.ensureMounted_mounting
    rw [he] at hm
    refine ⟨hm.error_of_backend, fun state => ?_⟩
    rw [tryPersist_eq]
    rcases hs : s.ensureMounted with ⟨e' | ⟨⟩, s₁⟩ <;> rw [hs] at he
    · exact he
    · cases he
  updated r state hr he := by
    have hrep := h.ensureMounted hk
    rw [tryPersist_eq]
    rcases hs : s.ensureMounted with ⟨e' | ⟨⟩, s₁⟩ <;> rw [hs] at he hrep
    · cases he
    · exact store_of_recorder (hrep.recorder.trans hr) state
  persist := s.persist_iff
  clear := s.persist_iff []

end Represents

/-- Each configuration keeps one contract. After any calls and restarts, whatever the driver and
the application answer on the way, the storage shows what a cell would that began with what the
configuration's record reads, or with its seed. -/
theorem shows_cell_after_calls [MountBackend β] [StateRecorder υ] (config : StorageConfig β υ)
    (files : FileTree) (c : Cell υ) (opened : β → FileTree → Prop)
    (held : β → FileTree → Except PersistenceError (Option Bytes))
    (hk : config.KeepsRecord opened held) (hc : c.reading = config.reading held files)
    (hr : c.recorder = config.recorder?) (calls : List Call) :
    Shows (follow config calls (make config files, c)).1
      (follow config calls (make config files, c)).2 :=
  ((Represents.make hc hr).follow hk calls).shows hk

/-- A partition whose driver refuses the first mount. -/
def stubborn : StorageConfig ScriptedBackend NotingRecorder :=
  .fileLibrary (.atPath ⟨["flash"]⟩ { mounts := [false] })

def stubbornCell : Cell NotingRecorder where
  reading := stubborn.reading (ScriptedBackend.held ⟨["flash"]⟩) {}
  recorder := none
  filled h := absurd (congrArg Except.toOption h) (by decide +kernel)

/-- The refused mount costs a reading, no more: the state persisted next outlives a restart. -/
theorem shows_cell_after_refused_mount :
    (follow stubborn [.load, .persist [1, 2], .release, .reopen]
      (make stubborn {}, stubbornCell)).1.load.1.toOption = some (some [1, 2]) := by
  have h := shows_cell_after_calls stubborn {} stubbornCell _ _
    (ScriptedBackend.keepsRecord ⟨["flash"]⟩ Partition.defaultLabel) rfl rfl
    [.load, .persist [1, 2], .release, .reopen]
  rw [h.load]
  decide +kernel

/-- A directory whose record holds one byte of the four that its length takes. -/
def damaged : FileTree :=
  (FileTree.put {} ["data"] .dir).put [Record.fileName, "data"] (.file [0])

/-- A damaged record does not count as none: to read it is an error. -/
theorem damaged_record_not_absent :
    Record.decode [0] = .error (.lengthCut 1) ∧
    (make (.fileApplication ⟨["data"]⟩) damaged :
      Storage DirectoryBackend NotingRecorder).ensureMounted.1 = .ok () ∧
    (make (.fileApplication ⟨["data"]⟩) damaged :
      Storage DirectoryBackend NotingRecorder).load.1 ≠ .ok none := by
  have hload : (make (.fileApplication ⟨["data"]⟩) damaged :
      Storage DirectoryBackend NotingRecorder).load.1.toOption = none := by decide +kernel
  refine ⟨rfl, rfl, fun hnone => ?_⟩
  rw [hnone] at hload
  cases hload

end Storage

end SensorLink
