import SensorLink.Double.Recorder
import SensorLink.Proofs.Storage.Discipline

namespace SensorLink

namespace Record

/-- The one record that declares no bytes. -/
theorem decode_eq_nil_iff {record : Bytes} : decode record = .ok [] ↔ record = [0, 0, 0, 0] := by
  have he : encode [] = .ok [0, 0, 0, 0] := rfl
  rw [decode_eq_ok_iff, he, Except.ok.injEq, eq_comm]

theorem readAt_eq_nil_iff {t : FileTree} {p : Path} :
    readAt t p = .ok (some []) ↔ t.read p = .ok [0, 0, 0, 0] := by
  simp only [readAt_eq_some_iff, decode_eq_nil_iff, exists_eq_right]

end Record

theorem Seed.latest?_ne_nil (seed : Seed) : seed.latest? ≠ some [] := by
  cases seed with
  | notInitialized => exact (Option.some_ne_none _).symm
  | initialized latest ne => exact fun h => ne (Option.some.inj h)

namespace Storage

variable {β υ : Type} {s s' : Storage β υ}

/-- A state that is kept for a callback is not empty. -/
def Filled (s : Storage β υ) : Prop := ∀ recorder, s.backing ≠ .callback recorder (some [])

theorem filled_make (config : StorageConfig β υ) (files : FileTree) : (make config files).Filled := by
  intro recorder h
  cases config with
  | fileLibrary partition | fileApplication path => cases h
  | callbackLibrary partition seed recorder => exact seed.latest?_ne_nil (Backing.callback.inj h).2
  | callbackApplication path seed recorder => exact seed.latest?_ne_nil (Backing.callback.inj h).2

theorem held_eq_nil_iff (hf : s.Filled) :
    s.held = .ok (some []) ↔
      ∃ path, s.recordPath? = some path ∧ s.files.read path = .ok [0, 0, 0, 0] := by
  obtain ⟨backing, mountPoint, files⟩ := s
  cases backing with
  | file path =>
    rw [held, Record.readAt_eq_nil_iff]
    exact ⟨fun h => ⟨path, rfl, h⟩, fun ⟨_, hp, h⟩ => Option.some.inj hp ▸ h⟩
  | callback recorder latest =>
    refine iff_of_false (fun h => hf recorder ?_) fun ⟨path, hp, _⟩ => by cases hp
    rw [Except.ok.inj h]

variable [MountBackend β]

theorem load_eq_nil_iff (hf : s.ensureMounted.2.Filled) :
    s.load.1 = .ok (some []) ↔ s.ensureMounted.1 = .ok () ∧ ∃ path,
      s.ensureMounted.2.recordPath? = some path ∧
      s.ensureMounted.2.files.read path = .ok [0, 0, 0, 0] := by
  rw [← held_eq_nil_iff hf, load_eq]
  rcases s.ensureMounted with ⟨e | ⟨⟩, s'⟩ <;> simp

theorem Turning.filled {on : Bool} {acts : List Act} {result : Except PersistenceError Unit}
    (h : Turning on s acts result s') (hf : s.Filled) : s'.Filled := by
  cases h with
  | idle _ | driven _ => exact hf

variable [StateRecorder υ]

omit [MountBackend β] in
theorem Filled.store (hf : s.Filled) (state : Bytes) : (s.store state).2.Filled := by
  obtain ⟨backing, mountPoint, files⟩ := s
  cases backing with
  | file path => exact fun recorder => hf recorder
  | callback recorder latest =>
    simp only [Storage.store]
    rcases StateRecorder.update recorder state with ⟨_ | _, recorder'⟩
    · intro r h
      exact hf recorder (congrArg (Backing.callback recorder) (Backing.callback.inj h).2)
    · intro r h
      exact Record.content_ne_nil state (Backing.callback.inj h).2

theorem Using.filled {acts : List Act} (h : Using s acts s') (hf : s.Filled) : s'.Filled := by
  cases h with
  | looked _ => exact hf
  | turned h | read h => exact h.filled hf
  | stored h state => exact (h.filled hf).store state

theorem Filled.useAll (hf : s.Filled) (uses : List Use) : (s.useAll uses).Filled :=
  useAll_induction (motive := fun _ => Filled) hf (fun _ _ _ _ _ _ h hu => hu.filled h) uses

/-- What a persist leaves to be read is its state, or what was there once the partition was mounted. -/
theorem load_tryPersist (s : Storage β υ) (state : Bytes) :
    ((s.tryPersist state).1 = .ok () → (s.tryPersist state).2.load.1 = .ok (Record.content state)) ∧
    (s.ensureMounted.1 = .ok () → ∀ e, (s.tryPersist state).1 = .error e →
      (s.tryPersist state).2.load.1 = s.load.1) := by
  have hm := s.ensureMounted_mounting
  rw [tryPersist_eq, load_eq s]
  rcases hmount : s.ensureMounted with ⟨e | ⟨⟩, s₁⟩
  · exact ⟨fun h => (nomatch h), fun h => (nomatch h)⟩
  · rw [hmount] at hm
    have hready := hm.ready_of_ok.store state
    -- nothing is left to mount, so the load reads what the store has left
    simp only [hready.load]
    rcases s₁.store_held state with ⟨hok, hheld⟩ | ⟨e, he, hheld⟩
    · exact ⟨fun _ => hheld, fun _ e he => nomatch hok.symm.trans he⟩
    · exact ⟨fun hok => (nomatch hok.symm.trans he), fun _ _ _ => hheld⟩

omit [StateRecorder υ] in
/-- Where no partition is to be mounted, what is read is what the backing holds. -/
theorem load_of_unmanaged (hp : s.partition? = none) : s.load.1 = s.held := by
  obtain ⟨-, hr, hs⟩ := s.turning_ensureMounted.of_unmanaged hp
  rw [load_eq, show s.ensureMounted = (.ok (), s) from Prod.ext hr hs]

theorem Using.held_ne_nil {acts : List Act} (h : Using s acts s') (hp : s.partition? = none)
    (hn : s.held ≠ .ok (some [])) : s'.held ≠ .ok (some []) := by
  cases h with
  | looked _ => exact hn
  | turned h | read h =>
    obtain ⟨-, -, rfl⟩ := h.of_unmanaged hp
    exact hn
  | stored h state =>
    obtain ⟨-, -, rfl⟩ := h.of_unmanaged hp
    rename_i s'
    rcases s'.store_held state with ⟨-, hheld⟩ | ⟨e, -, hheld⟩ <;> rw [hheld]
    · exact fun h => Record.content_ne_nil state (Except.ok.inj h)
    · exact hn

theorem held_ne_nil_useAll (hp : s.partition? = none) (hn : s.held ≠ .ok (some []))
    (uses : List Use) : (s.useAll uses).held ≠ .ok (some []) :=
  useAll_induction (motive := fun _ s' => s'.held ≠ .ok (some [])) hn
    (fun _ _ _ _ hp' _ h hu => hu.held_ne_nil (hp'.trans hp) h) uses

/-- A present state that is empty is read from a record that declares no bytes, and from nothing
else: not with a callback, and not once the storage has persisted a state. Such a record comes from
elsewhere; where no driver works on the files, a storage that does not begin with one never reads
one. A storage is initialized exactly when there is a present state, this one included. -/
theorem empty_state_iff_empty_record (config : StorageConfig β υ) (files : FileTree)
    (uses : List Use) :
    let s := (make config files).useAll uses
    (s.load.1 = .ok (some []) ↔ s.ensureMounted.1 = .ok () ∧ ∃ path, s.recordPath? = some path ∧
      s.ensureMounted.2.files.read path = .ok [0, 0, 0, 0]) ∧
    (s.isInitialized.1 = true ↔ ∃ state, s.load.1 = .ok (some state)) ∧
    (∀ state, (s.tryPersist state).1 = .ok () →
      (s.tryPersist state).2.load.1 = .ok (Record.content state) ∧ Record.content state ≠ some []) ∧
    (∀ state e, s.ensureMounted.1 = .ok () → (s.tryPersist state).1 = .error e →
      (s.tryPersist state).2.load.1 = s.load.1) ∧
    (config.partition? = none → (make config files).load.1 ≠ .ok (some []) →
      s.load.1 ≠ .ok (some [])) := by
  intro s
  have hf : s.Filled := (filled_make config files).useAll uses
  have hm := s.turning_ensureMounted
  refine ⟨?_, s.isInitialized_iff,
    fun state h => ⟨(s.load_tryPersist state).1 h, Record.content_ne_nil state⟩,
    fun state e h => (s.load_tryPersist state).2 h e, fun hc hn => ?_⟩
  · rw [load_eq_nil_iff (hm.filled hf), hm.recordPath?_eq]
  · have hp : (make config files).partition? = none := by rw [make_partition?, hc]; rfl
    rw [load_of_unmanaged hp] at hn
    rw [load_of_unmanaged ((partition?_useAll _ uses).trans hp)]
    exact held_ne_nil_useAll hp hn uses

/-- A record that declares no bytes counts as a present state. -/
theorem empty_record_is_present :
    let files := (FileTree.put {} ["data"] .dir).put [Record.fileName, "data"] (.file [0, 0, 0, 0])
    let s : Storage DirectoryBackend NotingRecorder := make (.fileApplication ⟨["data"]⟩) files
    Record.decode [0, 0, 0, 0] = .ok [] ∧ s.load.1 = .ok (some []) ∧ s.isInitialized.1 = true ∧
      Seed.make .initialized [] = .error (.invalidConfig .seedLacksState) :=
  ⟨rfl, by rfl, by rfl, rfl⟩

end Storage

end SensorLink
