import SensorLink.Proofs.Storage.Mounting

namespace SensorLink

/-- What the application says of the state that it recorded last. -/
def Seed.ofLatest : Option Bytes → Seed
  | some (b :: rest) => .initialized (b :: rest) (List.cons_ne_nil b rest)
  | _ => .notInitialized

theorem Seed.latest?_ofLatest {latest : Option Bytes} (h : latest ≠ some []) :
    (ofLatest latest).latest? = latest := by
  rcases latest with _ | _ | ⟨b, rest⟩
  · rfl
  · exact absurd rfl h
  · rfl

/-- The configuration that opens a closed storage again. The driver and the recorder go on, and the
application says what it recorded last. -/
def StorageConfig.resume {β υ : Type} (config : StorageConfig β υ) (s : Storage β υ) :
    StorageConfig β υ :=
  match config, s with
  | .fileLibrary partition, ⟨_, some ⟨_, .library backend _, _⟩, _⟩ =>
    .fileLibrary { partition with backend }
  | .callbackLibrary partition _ _,
      ⟨.callback recorder latest, some ⟨_, .library backend _, _⟩, _⟩ =>
    .callbackLibrary { partition with backend } (.ofLatest latest) recorder
  | .callbackApplication path _ _, ⟨.callback recorder latest, _, _⟩ =>
    .callbackApplication path (.ofLatest latest) recorder
  | config, _ => config

namespace Storage

variable {β υ : Type}

inductive OpenedBy : StorageConfig β υ → Storage β υ → Prop where
  | fileLibrary {partition : Partition β} {b : β} {mounted : Bool} {t : FileTree} :
      OpenedBy (.fileLibrary partition)
        ⟨.file (partition.base.join Record.fileName),
          some ⟨partition.base, .library b partition.label, mounted⟩, t⟩
  | fileApplication {path : Path} {t : FileTree} (hd : t.isDir path = true) :
      OpenedBy (.fileApplication path)
        ⟨.file (path.join Record.fileName), some ⟨path, .application, false⟩, t⟩
  | callbackLibrary {partition : Partition β} {seed : Seed} {recorder r : υ}
      {latest : Option Bytes} {b : β} {mounted : Bool} {t : FileTree} (hl : latest ≠ some []) :
      OpenedBy (.callbackLibrary partition seed recorder)
        ⟨.callback r latest, some ⟨partition.base, .library b partition.label, mounted⟩, t⟩
  | callbackApplication {path : Option Path} {seed : Seed} {recorder r : υ}
      {latest : Option Bytes} {m : Option (MountPoint β)} {t : FileTree} (hl : latest ≠ some [])
      (hm : m = path.map fun p => ⟨p, .application, false⟩) :
      OpenedBy (.callbackApplication path seed recorder) ⟨.callback r latest, m, t⟩

namespace OpenedBy

variable [MountBackend β] {config : StorageConfig β υ} {s s' : Storage β υ}

theorem make {files : FileTree} (h : (Storage.make config files).prepare.1 = .ok ()) :
    OpenedBy config (Storage.make config files) := by
  have hseed (seed : Seed) : seed.latest? ≠ some [] := by
    cases seed with
    | notInitialized => simp [Seed.latest?]
    | initialized latest ne => simpa [Seed.latest?] using ne
  cases config with
  | fileLibrary partition => exact .fileLibrary
  | fileApplication path =>
    by_cases hd : files.isDir path = true
    · exact .fileApplication hd
    · simp [Storage.prepare, Storage.make, hd] at h
  | callbackLibrary partition seed recorder => exact .callbackLibrary (hseed seed)
  | callbackApplication path seed recorder => exact .callbackApplication (hseed seed) rfl

theorem prepare_eq (h : OpenedBy config s) : s.prepare = s.ensureMounted := by
  cases h with
  | fileLibrary => rfl
  | fileApplication hd => simp [Storage.prepare, Storage.ensureMounted, withPartition,
      MountPoint.ownsMount, MountPoint.ownership, hd]
  | callbackLibrary hl => rfl
  | @callbackApplication path seed recorder r latest m t hl hm =>
    subst hm
    cases path <;> rfl

theorem mounting (h : OpenedBy config s) {result : Except PersistenceError Unit}
    (hm : Mounting s result s') : OpenedBy config s' := by
  cases hm with
  | ready _ => exact h
  | mounted _ | failed _ =>
    cases h with
    | fileLibrary => exact .fileLibrary
    | callbackLibrary hl => exact .callbackLibrary hl
    | @callbackApplication path seed recorder r latest m t hl hm => cases path <;> cases hm

theorem releasing (h : OpenedBy config s) {result : Except PersistenceError Unit}
    (hm : Releasing s result s') : OpenedBy config s' := by
  cases hm with
  | idle => exact h
  | unmounted _ | failed _ =>
    cases h with
    | fileLibrary => exact .fileLibrary
    | callbackLibrary hl => exact .callbackLibrary hl
    | @callbackApplication path seed recorder r latest m t hl hm => cases path <;> cases hm

theorem close_of_release {backing : Backing υ} {base : Path} {label : String} {b : β}
    {mounted : Bool} {t : FileTree}
    (h : (⟨backing, some ⟨base, .library b label, mounted⟩, t⟩ : Storage β υ).release.1 = .ok ()) :
    ∃ b' t', (⟨backing, some ⟨base, .library b label, mounted⟩, t⟩ : Storage β υ).close =
      ⟨backing, some ⟨base, .library b' label, false⟩, t'⟩ := by
  cases mounted with
  | false => exact ⟨b, t, rfl⟩
  | true =>
    rcases hu : MountBackend.unmount b base label t with ⟨e | ⟨⟩, b', t'⟩
    · rw [release_of_unmount hu] at h
      cases h
    · refine ⟨b', t', ?_⟩
      rw [close, release_of_unmount hu]
      rfl

/-- Opened again, a closed storage is what it was when it was closed. -/
theorem make_resume (h : OpenedBy config s) (hr : s.release.1 = .ok ()) :
    Storage.make (config.resume s.close) s.close.files = s.close := by
  cases h with
  | fileLibrary =>
    obtain ⟨b', t', hc⟩ := close_of_release hr
    rw [hc]
    rfl
  | fileApplication hd => rfl
  | callbackLibrary hl =>
    obtain ⟨b', t', hc⟩ := close_of_release hr
    rw [hc]
    simp [StorageConfig.resume, Storage.make, Partition.mountPoint, Seed.latest?_ofLatest hl]
  | @callbackApplication path seed recorder r latest m t hl hm =>
    have hc : (⟨.callback r latest, m, t⟩ : Storage β υ).close = ⟨.callback r latest, m, t⟩ := by
      subst hm
      cases path <;> rfl
    rw [hc]
    simp [StorageConfig.resume, Storage.make, Seed.latest?_ofLatest hl, hm]

variable [StateRecorder υ]

omit [MountBackend β] in
theorem store (h : OpenedBy config s) (state : Bytes) : OpenedBy config (s.store state).2 := by
  cases h with
  | fileLibrary => exact .fileLibrary
  | fileApplication hd => exact .fileApplication (Record.writeAt_isDir hd _ state)
  | @callbackLibrary partition seed recorder r latest b mounted t hl =>
    simp only [Storage.store]
    rcases StateRecorder.update r state with ⟨_ | _, r'⟩
    · exact .callbackLibrary hl
    · exact .callbackLibrary (Record.content_ne_nil state)
  | @callbackApplication path seed recorder r latest m t hl hm =>
    simp only [Storage.store]
    rcases StateRecorder.update r state with ⟨_ | _, r'⟩
    · exact .callbackApplication hl hm
    · exact .callbackApplication (Record.content_ne_nil state) hm

theorem persist (h : OpenedBy config s) (state : Bytes) : OpenedBy config (s.persist state).2 := by
  have hm := h.mounting s.ensureMounted_mounting
  unfold Storage.persist
  rw [tryPersist_eq]
  rcases he : s.ensureMounted with ⟨e | ⟨⟩, s₁⟩ <;> rw [he] at hm
  · exact hm
  · exact hm.store state

end OpenedBy

variable [MountBackend β] [StateRecorder υ]

/-- What the use of a storage can make of it. -/
inductive Reachable (s : Storage β υ) : Storage β υ → Prop where
  | refl : Reachable s s
  | mount {s' : Storage β υ} (h : Reachable s s') : Reachable s s'.ensureMounted.2
  | release {s' : Storage β υ} (h : Reachable s s') : Reachable s s'.release.2
  | persist {s' : Storage β υ} (h : Reachable s s') (state : Bytes) :
      Reachable s (s'.persist state).2

/-- Mounts and unmounts succeed, and so do persists of all states that fit a record; what is closed is
opened again with what it holds. -/
structure Serves (s : Storage β υ) : Prop where
  mounts : s.ensureMounted.1 = .ok ()
  releases : s.release.1 = .ok ()
  persists (state : Bytes) : state.length < wordCount Record.lengthWidth →
    (s.persist state).1 = true
  keeps : s.close.load.1 = s.load.1

def Dependable (s : Storage β υ) : Prop := ∀ s', s.Reachable s' → s'.Serves

theorem Reachable.trans {s s' s'' : Storage β υ} (h : s.Reachable s') (h' : s'.Reachable s'') :
    s.Reachable s'' := by
  induction h' with
  | refl => exact h
  | mount _ ih => exact .mount ih
  | release _ ih => exact .release ih
  | persist _ state ih => exact .persist ih state

theorem Dependable.serves {s : Storage β υ} (h : s.Dependable) : s.Serves := h s .refl

theorem Dependable.of_reachable {s s' : Storage β υ} (h : s.Dependable) (hr : s.Reachable s') :
    s'.Dependable := fun _ hr' => h _ (hr.trans hr')

omit [StateRecorder υ] in
theorem load_ensureMounted {s : Storage β υ} (h : s.ensureMounted.1 = .ok ()) :
    s.ensureMounted.2.load = s.load := by
  have hm := s.ensureMounted_mounting
  rw [h] at hm
  rw [hm.ready_of_ok.load, load_eq]
  rcases he : s.ensureMounted with ⟨e | ⟨⟩, s'⟩
  · rw [he] at h
    cases h
  · rfl

/-- A storage opened by the configuration that can be relied on, mounted, and what it holds. -/
structure Settled (config : StorageConfig β υ) (s : Storage β υ) (state : Option Bytes) : Prop where
  opened : OpenedBy config s
  dependable : s.Dependable
  ready : s.Ready
  held : s.held = .ok state

namespace Settled

variable {config : StorageConfig β υ} {s s' : Storage β υ} {state : Option Bytes}

theorem of_load (ho : OpenedBy config s) (hd : s.Dependable) (h : s.load = (.ok state, s')) :
    Settled config s' state := by
  obtain ⟨hready, hheld⟩ := ready_of_load h
  rw [load_eq] at h
  rcases he : s.ensureMounted with ⟨e | ⟨⟩, s₁⟩ <;> rw [he] at h
  · cases h
  · obtain ⟨-, rfl⟩ := Prod.mk.inj h
    have hmount : s₁ = s.ensureMounted.2 := by rw [he]
    subst hmount
    exact ⟨ho.mounting s.ensureMounted_mounting, hd.of_reachable (.mount .refl), hready, hheld⟩

theorem load (h : Settled config s state) : s.load = (.ok state, s) := by
  rw [h.ready.load, h.held]

theorem persists (h : Settled config s state) (next : Bytes)
    (hl : next.length < wordCount Record.lengthWidth) :
    (s.persist next).1 = true ∧ Settled config (s.persist next).2 (Record.content next) := by
  have hp := h.dependable.serves.persists next hl
  obtain ⟨hready, hheld⟩ := h.ready.of_persist hp
  exact ⟨hp, h.opened.persist next, h.dependable.of_reachable (.persist .refl next), hready, hheld⟩

/-- A persist that went through leaves a settled storage, however long the state. -/
theorem of_persist (h : Settled config s state) {next : Bytes} (hp : (s.persist next).1 = true) :
    Settled config (s.persist next).2 (Record.content next) := by
  obtain ⟨hready, hheld⟩ := h.ready.of_persist hp
  exact ⟨h.opened.persist next, h.dependable.of_reachable (.persist .refl next), hready, hheld⟩

/-- To close a storage loses nothing that it holds. -/
theorem load_close (h : Settled config s state) : s.close.load.1 = .ok state := by
  rw [h.dependable.serves.keeps, h.load]

/-- A restart opens a storage that can be prepared and holds what was held. -/
theorem restart (h : Settled config s state) :
    let opened := Storage.make (config.resume s.close) s.close.files
    opened.prepare.1 = .ok () ∧ ∃ s', opened.prepare.2.load = (.ok state, s') ∧
      Settled config s' state := by
  intro opened
  have hclosed : opened = s.close := h.opened.make_resume h.dependable.serves.releases
  have ho : OpenedBy config s.close := h.opened.releasing s.release_releasing
  have hd : s.close.Dependable := h.dependable.of_reachable (.release .refl)
  have hread : s.close.ensureMounted.2.load = (.ok state, s.close.load.2) := by
    rw [load_ensureMounted hd.serves.mounts]
    exact Prod.ext h.load_close rfl
  rw [hclosed, ho.prepare_eq]
  exact ⟨hd.serves.mounts, _, hread, of_load (ho.mounting s.close.ensureMounted_mounting)
    (hd.of_reachable (.mount .refl)) hread⟩

end Settled

end Storage

end SensorLink
