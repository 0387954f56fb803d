import SensorLink.Storage
import SensorLink.Proofs.Record.Atomic

namespace SensorLink

namespace Storage

variable {β υ : Type}

/-- Nothing is left to mount. -/
def Ready (s : Storage β υ) : Prop :=
  ∀ m, s.mountPoint = some m → m.ownsMount = true → m.mounted = true

/-- What the backing reads, the mount apart. -/
def held (s : Storage β υ) : Except PersistenceError (Option Bytes) :=
  match s.backing with
  | .file path => Record.readAt s.files path
  | .callback _ latest => .ok latest

theorem held_of_recordPath? {s : Storage β υ} {path : Path} (h : s.recordPath? = some path) :
    s.held = Record.readAt s.files path := by
  obtain ⟨backing, mountPoint, files⟩ := s
  cases backing with
  | file p =>
    cases h
    rfl
  | callback recorder latest => cases h

def recorder? (s : Storage β υ) : Option υ :=
  match s.backing with
  | .file _ => none
  | .callback recorder _ => some recorder

theorem ready_of_application {s : Storage β υ} {base : Path} {mounted : Bool}
    (h : s.mountPoint = some ⟨base, .application, mounted⟩) : s.Ready := by
  intro m hm ho
  rw [h] at hm
  cases hm
  cases ho

section Recorder

variable [StateRecorder υ]

/-- What a persist does once the partition is mounted. -/
def store (s : Storage β υ) (state : Bytes) : Except PersistenceError Unit × Storage β υ :=
  match s.backing with
  | .file path =>
    ((Record.writeAt s.files path state).1,
      { s with files := (Record.writeAt s.files path state).2 })
  | .callback recorder latest =>
    match StateRecorder.update recorder state with
    | (false, recorder) => (.error .rejected, { s with backing := .callback recorder latest })
    | (true, recorder) =>
      (.ok (), { s with backing := .callback recorder (Record.content state) })

@[simp] theorem store_mountPoint (s : Storage β υ) (state : Bytes) :
    (s.store state).2.mountPoint = s.mountPoint := by
  unfold store
  split
  · rfl
  · split <;> rfl

/-- A persist takes effect as a whole or not at all. -/
theorem store_held (s : Storage β υ) (state : Bytes) :
    ((s.store state).1 = .ok () ∧ (s.store state).2.held = .ok (Record.content state)) ∨
      (∃ e, (s.store state).1 = .error e ∧ (s.store state).2.held = s.held) := by
  obtain ⟨backing, mountPoint, files⟩ := s
  cases backing with
  | file path =>
    rcases Record.writeAt_cases files path state with ⟨e, he, hu⟩ | ⟨hok, hr⟩
    · exact Or.inr ⟨e, he, hu.readAt⟩
    · exact Or.inl ⟨hok, hr.readAt⟩
  | callback recorder latest =>
    simp only [store]
    rcases StateRecorder.update recorder state with ⟨_ | _, recorder'⟩
    · exact Or.inr ⟨_, rfl, rfl⟩
    · exact Or.inl ⟨rfl, rfl⟩

theorem store_of_recorder {s : Storage β υ} {recorder : υ} (h : s.recorder? = some recorder)
    (state : Bytes) : (s.store state).1 =
      if (StateRecorder.update recorder state).1 then .ok () else .error .rejected := by
  obtain ⟨backing, mountPoint, files⟩ := s
  cases backing with
  | file path => cases h
  | callback recorder' latest =>
    cases h
    simp only [store]
    rcases StateRecorder.update recorder state with ⟨_ | _, recorder'⟩ <;> rfl

theorem Ready.store {s : Storage β υ} (h : s.Ready) (state : Bytes) : (s.store state).2.Ready := by
  intro m hm
  rw [store_mountPoint] at hm
  exact h m hm

end Recorder

variable [MountBackend β]

/-- What an attempt to mount comes to. -/
inductive Mounting : Storage β υ → Except PersistenceError Unit → Storage β υ → Prop where
  | ready {s : Storage β υ} (h : s.Ready) : Mounting s (.ok ()) s
  | mounted {backing : Backing υ} {base : Path} {label : String} {b b' : β} {t t' : FileTree}
      (h : MountBackend.mount b base label t = (.ok (), b', t')) :
      Mounting ⟨backing, some ⟨base, .library b label, false⟩, t⟩ (.ok ())
        ⟨backing, some ⟨base, .library b' label, true⟩, t'⟩
  | failed {backing : Backing υ} {base : Path} {label : String} {b b' : β} {t t' : FileTree}
      {e : IoError} (h : MountBackend.mount b base label t = (.error e, b', t')) :
      Mounting ⟨backing, some ⟨base, .library b label, false⟩, t⟩ (.error (.mount (.backend base e)))
        ⟨backing, some ⟨base, .library b' label, false⟩, t'⟩

inductive Releasing : Storage β υ → Except PersistenceError Unit → Storage β υ → Prop where
  | idle {s : Storage β υ} : Releasing s (.ok ()) s
  | unmounted {backing : Backing υ} {base : Path} {label : String} {b b' : β} {t t' : FileTree}
      (h : MountBackend.unmount b base label t = (.ok (), b', t')) :
      Releasing ⟨backing, some ⟨base, .library b label, true⟩, t⟩ (.ok ())
        ⟨backing, some ⟨base, .library b' label, false⟩, t'⟩
  | failed {backing : Backing υ} {base : Path} {label : String} {b b' : β} {t t' : FileTree}
      {e : IoError} (h : MountBackend.unmount b base label t = (.error e, b', t')) :
      Releasing ⟨backing, some ⟨base, .library b label, true⟩, t⟩
        (.error (.mount (.backend base e))) ⟨backing, some ⟨base, .library b' label, true⟩, t'⟩

theorem Ready.ensureMounted {s : Storage β υ} (h : s.Ready) : s.ensureMounted = (.ok (), s) := by
  obtain ⟨backing, mountPoint, files⟩ := s
  cases mountPoint with
  | none => rfl
  | some m =>
    obtain ⟨base, owner, mounted⟩ := m
    cases owner with
    | application => rfl
    | library b label =>
      obtain rfl : mounted = true := h _ rfl rfl
      rfl

theorem ensureMounted_of_mount {backing : Backing υ} {base : Path} {label : String} {b b' : β}
    {t t' : FileTree} {result : Except IoError Unit}
    (h : MountBackend.mount b base label t = (result, b', t')) :
    (⟨backing, some ⟨base, .library b label, false⟩, t⟩ : Storage β υ).ensureMounted =
      (result.mapError fun e => .mount (.backend base e),
        ⟨backing, some ⟨base, .library b' label, result.isOk⟩, t'⟩) := by
  simp only [Storage.ensureMounted, withPartition, MountPoint.ownsMount, MountPoint.ownership,
    MountPoint.mount, h]
  cases result <;> rfl

theorem release_of_unmount {backing : Backing υ} {base : Path} {label : String} {b b' : β}
    {t t' : FileTree} {result : Except IoError Unit}
    (h : MountBackend.unmount b base label t = (result, b', t')) :
    (⟨backing, some ⟨base, .library b label, true⟩, t⟩ : Storage β υ).release =
      (result.mapError fun e => .mount (.backend base e),
        ⟨backing, some ⟨base, .library b' label, !result.isOk⟩, t'⟩) := by
  simp only [Storage.release, withPartition, MountPoint.ownsMount, MountPoint.ownership,
    MountPoint.unmount, h]
  cases result <;> rfl

theorem ensureMounted_mounting (s : Storage β υ) :
    Mounting s s.ensureMounted.1 s.ensureMounted.2 := by
  -- only a library's partition that is not mounted yet is not ready
  by_cases hr : s.Ready
  · rw [hr.ensureMounted]
    exact .ready hr
  · obtain ⟨backing, mountPoint, files⟩ := s
    cases mountPoint with
    | none => exact absurd (fun m hm => by cases hm) hr
    | some m =>
      obtain ⟨base, owner, mounted⟩ := m
      cases owner with
      | application => exact absurd (ready_of_application rfl) hr
      | library b label =>
        cases mounted with
        | true => exact absurd (fun m hm _ => by cases hm; rfl) hr
        | false =>
          rcases hm : MountBackend.mount b base label files with ⟨result, b', files'⟩
          rw [ensureMounted_of_mount hm]
          cases result with
          | ok u => exact .mounted hm
          | error e => exact .failed hm

theorem release_releasing (s : Storage β υ) : Releasing s s.release.1 s.release.2 := by
  obtain ⟨backing, mountPoint, files⟩ := s
  cases mountPoint with
  | none => exact .idle
  | some m =>
    obtain ⟨base, owner, mounted⟩ := m
    cases owner with
    | application => exact .idle
    | library b label =>
      cases mounted with
      | false => exact .idle
      | true =>
        rcases hm : MountBackend.unmount b base label files with ⟨result, b', files'⟩
        rw [release_of_unmount hm]
        cases result with
        | ok u => exact .unmounted hm
        | error e => exact .failed hm

theorem Mounting.ready_of_ok {s s' : Storage β υ} (h : Mounting s (.ok ()) s') : s'.Ready := by
  cases h with
  | ready h => exact h
  | mounted h =>
    intro m hm _
    cases hm
    rfl

theorem Mounting.error_of_backend {s s' : Storage β υ} {e : PersistenceError}
    (h : Mounting s (.error e) s') : ∃ path cause, e = .mount (.backend path cause) := by
  cases h with
  | failed h => exact ⟨_, _, rfl⟩

theorem load_eq (s : Storage β υ) :
    s.load =
      match s.ensureMounted with
      | (.ok (), s) => (s.held, s)
      | (.error e, s) => (.error e, s) := by
  unfold load
  rcases s.ensureMounted with ⟨_ | ⟨⟩, s'⟩
  · rfl
  · obtain ⟨backing, mountPoint, files⟩ := s'
    cases backing <;> rfl

theorem Ready.load {s : Storage β υ} (h : s.Ready) : s.load = (s.held, s) := by
  rw [load_eq, h.ensureMounted]

theorem isInitialized_iff (s : Storage β υ) :
    s.isInitialized.1 = true ↔ ∃ state, s.load.1 = .ok (some state) := by
  unfold isInitialized
  rcases s.load with ⟨e | _ | state, s'⟩ <;> simp

/-- A storage that has been read is ready, and holds what was read. -/
theorem ready_of_load {s s' : Storage β υ} {state : Option Bytes} (h : s.load = (.ok state, s')) :
    s'.Ready ∧ s'.held = .ok state := by
  have hm := s.ensureMounted_mounting
  rw [load_eq] at h
  rcases he : s.ensureMounted with ⟨_ | ⟨⟩, s₁⟩
  · rw [he] at h
    cases h
  · rw [he] at h hm
    obtain ⟨hstate, rfl⟩ := Prod.mk.inj h
    exact ⟨hm.ready_of_ok, hstate⟩

section Recorder

variable [StateRecorder υ]

theorem tryPersist_eq (s : Storage β υ) (state : Bytes) :
    s.tryPersist state =
      match s.ensureMounted with
      | (.ok (), s) => s.store state
      | (.error e, s) => (.error e, s) := by
  unfold tryPersist
  rcases s.ensureMounted with ⟨_ | ⟨⟩, s'⟩
  · rfl
  · obtain ⟨backing, mountPoint, files⟩ := s'
    cases backing with
    | file path => rfl
    | callback recorder latest =>
      simp only [store]
      rcases StateRecorder.update recorder state with ⟨_ | _, recorder'⟩ <;> rfl

theorem persist_iff (s : Storage β υ) (state : Bytes) :
    (s.persist state).1 = true ↔ (s.tryPersist state).1 = .ok () := by
  unfold persist
  rcases s.tryPersist state with ⟨e | ⟨⟩, s'⟩ <;> simp [Except.isOk, Except.toBool]

theorem Ready.persist {s : Storage β υ} (h : s.Ready) (state : Bytes) :
    s.persist state = ((s.store state).1.isOk, (s.store state).2) := by
  rw [Storage.persist, tryPersist_eq, h.ensureMounted]

theorem Ready.of_persist {s : Storage β υ} {state : Bytes} (h : s.Ready)
    (hp : (s.persist state).1 = true) :
    (s.persist state).2.Ready ∧ (s.persist state).2.held = .ok (Record.content state) := by
  rw [h.persist] at hp ⊢
  refine ⟨h.store state, ?_⟩
  rcases s.store_held state with ⟨-, hheld⟩ | ⟨e, he, -⟩
  · exact hheld
  · rw [he] at hp
    cases hp

theorem Ready.of_refusal {s : Storage β υ} {state : Bytes} (h : s.Ready)
    (hp : (s.persist state).1 = false) :
    (s.persist state).2.Ready ∧ (s.persist state).2.held = s.held := by
  rw [h.persist] at hp ⊢
  refine ⟨h.store state, ?_⟩
  rcases s.store_held state with ⟨hok, -⟩ | ⟨e, -, hheld⟩
  · rw [hok] at hp
    cases hp
  · exact hheld

end Recorder

end Storage

end SensorLink
