import SensorLink.Double.Recorder
import SensorLink.Settings.Sensor

namespace SensorLink

theorem Path.ofString_empty : ofString "" = ⟨[""]⟩ := by
  rw [ofString, String.splitOn, if_neg (by decide), String.splitOnAux]
  rfl

namespace StorageSettings

/-- The settings are of a file, and there is a path exactly if the application is to give one. -/
structure Valid (s : StorageSettings) : Prop where
  kind : s.kind = .file
  path : s.path.isSome = true ↔ s.ownership = .application

def check (s : StorageSettings) : Except SettingsFault Unit :=
  if s.kind ≠ .file then .error .callbackKind
  else match s.ownership, s.path with
    | .application, none => .error .pathMissing
    | .library, some _ => .error .pathNotTaken
    | _, _ => .ok ()

theorem check_eq_ok {s : StorageSettings} : s.check = .ok () ↔ s.Valid := by
  have hvalid : s.Valid ↔ s.kind = .file ∧ (s.path.isSome = true ↔ s.ownership = .application) :=
    ⟨fun h => ⟨h.kind, h.path⟩, fun h => ⟨h.1, h.2⟩⟩
  rw [hvalid, check]
  obtain ⟨kind, owner, path, base⟩ := s
  cases kind with
  | callback => simp
  | file => cases owner <;> cases path <;> simp

end StorageSettings

namespace SensorSettings

structure Valid (s : SensorSettings) : Prop where
  devEui : s.devEui.isSome = true
  url : ∀ url, s.bridgeUrl = some url → Settings.isHttpUrl url = true
  storage : s.storage.Valid

variable {s : SensorSettings}

theorem validate_eq (s : SensorSettings) : s.validate =
    if s.devEui.isNone then .error .devEuiMissing
    else match s.bridgeUrl with
      | some url => if Settings.isHttpUrl url then s.storage.check else .error (.urlScheme url)
      | none => s.storage.check := by
  simp only [validate, bind, Except.bind, throw, throwThe, MonadExceptOf.throw]
  split
  · rfl
  · cases s.bridgeUrl with
    | none => rfl
    | some url =>
      simp only
      cases Settings.isHttpUrl url <;> rfl

theorem validate_eq_ok : s.validate = .ok () ↔ s.Valid := by
  rw [validate_eq]
  cases heui : s.devEui with
  | none =>
    refine ⟨fun h => (by cases h), fun h => ?_⟩
    have hsome := h.devEui
    rw [heui] at hsome
    cases hsome
  | some e =>
    have hsome : s.devEui.isSome = true := by rw [heui]; rfl
    cases hurl : s.bridgeUrl with
    | none =>
      exact StorageSettings.check_eq_ok.trans
        ⟨fun h => ⟨hsome, by simp [hurl], h⟩, fun h => h.storage⟩
    | some url =>
      by_cases hhttp : Settings.isHttpUrl url = true
      · simp only [hhttp, if_true]
        refine StorageSettings.check_eq_ok.trans ⟨fun h => ⟨hsome, ?_, h⟩, fun h => h.storage⟩
        rintro u hu
        rw [hurl] at hu
        exact Option.some.inj hu ▸ hhttp
      · simp only [if_neg hhttp]
        exact ⟨fun h => (by cases h), fun h => absurd (h.url url hurl) hhttp⟩

/-- What is loaded has been read, parsed and validated, in this order. -/
theorem validate_of_load {p : Path} {contents : Except IoError Bytes}
    (h : load p contents = .ok s) : s.validate = .ok () := by
  simp only [load, bind, Except.bind] at h
  split at h
  · cases h
  split at h
  · cases h
  split at h
  · cases h
  split at h
  · cases h
  rename_i hvalid
  cases h
  cases hv : s.validate with
  | ok u => rfl
  | error e =>
    rw [hv] at hvalid
    cases hvalid

section Storage

variable {υ : Type}

theorem storageConfig_of_invalid {e : SettingsFault} (h : s.validate = .error e) :
    (s.storageConfig : Except SettingsFault (StorageConfig DirectoryBackend υ)) = .error e := by
  rw [storageConfig, h]
  rfl

theorem storageConfig_of_application (h : s.validate = .ok ())
    (ho : s.storage.ownership = .application) {path : Path} (hp : s.storage.path = some path) :
    (s.storageConfig : Except SettingsFault (StorageConfig DirectoryBackend υ)) =
      if path.isEmpty then .error (.storage (.invalidConfig .pathMissing))
      else .ok (.fileApplication path) := by
  rw [storageConfig, h, ho, hp]
  simp only [bind, Except.bind, StorageConfig.inApplicationDirectory]
  split <;> rfl

theorem storageConfig_of_library (h : s.validate = .ok ()) (ho : s.storage.ownership = .library) :
    (s.storageConfig : Except SettingsFault (StorageConfig DirectoryBackend υ)) =
      .ok (.fileLibrary (.atPath s.storage.libraryBase {})) := by
  rw [storageConfig, h, ho]
  rfl

theorem storageConfig_eq_ok {config : StorageConfig DirectoryBackend υ} :
    s.storageConfig = .ok config ↔ s.validate = .ok () ∧
      ((∃ path, s.storage.ownership = .application ∧ s.storage.path = some path ∧
        path.isEmpty = false ∧ config = .fileApplication path) ∨
      (s.storage.ownership = .library ∧
        config = .fileLibrary (.atPath s.storage.libraryBase {}))) := by
  constructor
  · intro h
    cases hv : s.validate with
    | error e =>
      rw [storageConfig_of_invalid hv] at h
      cases h
    | ok u =>
      refine ⟨rfl, ?_⟩
      cases ho : s.storage.ownership with
      | library =>
        rw [storageConfig_of_library hv ho] at h
        exact Or.inr ⟨rfl, (Except.ok.inj h).symm⟩
      | application =>
        obtain ⟨path, hp⟩ := Option.isSome_iff_exists.1 ((validate_eq_ok.1 hv).storage.path.2 ho)
        rw [storageConfig_of_application hv ho hp] at h
        split at h
        · cases h
        · rename_i hne
          exact Or.inl ⟨path, rfl, hp, eq_false_of_ne_true hne, (Except.ok.inj h).symm⟩
  · rintro ⟨hv, ⟨path, ho, hp, hne, rfl⟩ | ⟨ho, rfl⟩⟩
    · rw [storageConfig_of_application hv ho hp, hne]
      rfl
    · exact storageConfig_of_library hv ho

end Storage

/-- Settings describe a storage exactly if they are valid and do not name an empty path, which passes
validation but not the making of the storage. What is loaded from a file is valid. The storage is a
file of the configured owner, with the record in the application's path or below the library's base. -/
theorem storage_of_valid {υ : Type} (s : SensorSettings) :
    (s.validate = .ok () ↔ s.Valid) ∧
    ((∃ config : StorageConfig DirectoryBackend υ, s.storageConfig = .ok config) ↔
      s.validate = .ok () ∧ ∀ path, s.storage.path = some path → path.isEmpty = false) ∧
    (∀ path, s.validate = .ok () → s.storage.path = some path → path.isEmpty = true →
      (s.storageConfig : Except SettingsFault (StorageConfig DirectoryBackend υ)) =
        .error (.storage (.invalidConfig .pathMissing))) ∧
    (∀ p contents, load p contents = .ok s → s.validate = .ok ()) ∧
    ∀ (config : StorageConfig DirectoryBackend υ) (files : FileTree), s.storageConfig = .ok config →
      config.kind = .file ∧ config.ownership = s.storage.ownership ∧
      (s.storage.ownership = .application → ∃ path, s.storage.path = some path ∧
        (Storage.make config files).recordPath? = some (path.join "user-state-sensor.bin")) ∧
      (s.storage.ownership = .library → (Storage.make config files).recordPath? =
        some (s.storage.libraryBase.join "user-state-sensor.bin")) := by
  -- a path is set only for the application
  have happlication {path : Path} (hv : s.validate = .ok ()) (hp : s.storage.path = some path) :
      s.storage.ownership = .application :=
    (validate_eq_ok.1 hv).storage.path.1 (by rw [hp]; rfl)
  refine ⟨validate_eq_ok, ⟨?_, ?_⟩, ?_, ?_, ?_⟩
  · rintro ⟨config, h⟩
    obtain ⟨hv, ⟨path, -, hp, hne, -⟩ | ⟨ho, -⟩⟩ := storageConfig_eq_ok.1 h
    · refine ⟨hv, fun path' hp' => ?_⟩
      obtain rfl := Option.some.inj (hp.symm.trans hp')
      exact hne
    · refine ⟨hv, fun path hp => ?_⟩
      rw [happlication hv hp] at ho
      cases ho
  · rintro ⟨hv, hne⟩
    cases ho : s.storage.ownership with
    | library => exact ⟨_, storageConfig_of_library hv ho⟩
    | application =>
      obtain ⟨path, hp⟩ := Option.isSome_iff_exists.1 ((validate_eq_ok.1 hv).storage.path.2 ho)
      exact ⟨_, storageConfig_eq_ok.2 ⟨hv, Or.inl ⟨path, ho, hp, hne path hp, rfl⟩⟩⟩
  · intro path hv hp he
    rw [storageConfig_of_application hv (happlication hv hp) hp, if_pos he]
  · exact fun p contents h => validate_of_load h
  · intro config files h
    obtain ⟨-, ⟨path, ho, hp, -, rfl⟩ | ⟨ho, rfl⟩⟩ := storageConfig_eq_ok.1 h
    · refine ⟨rfl, ho.symm, fun _ => ⟨path, hp, rfl⟩, fun hl => ?_⟩
      rw [ho] at hl
      cases hl
    · refine ⟨rfl, ho.symm, fun ha => ?_, fun _ => rfl⟩
      rw [ho] at ha
      cases ha

/-- An empty path from the environment passes validation, and no storage can be made of it. -/
theorem empty_path_valid_not_usable :
    let s := ofEnvironment fun name =>
      [("SENSOR_DEV_EUI", "1"), ("SENSOR_STORAGE_PATH", "")].lookup name
    s.validate = .ok () ∧
      (s.storageConfig : Except SettingsFault (StorageConfig DirectoryBackend NotingRecorder)) =
        .error (.storage (.invalidConfig .pathMissing)) := by
  intro s
  have hs : s = ⟨some ⟨1⟩, none, 5, ⟨.file, .application, some (.ofString ""),
      Partition.defaultBase⟩⟩ := rfl
  have hv : s.validate = .ok () := by
    rw [hs]
    rfl
  have ho : s.storage.ownership = .application := by rw [hs]
  have hp : s.storage.path = some ⟨[""]⟩ := by rw [hs, Path.ofString_empty]
  exact ⟨hv, storageConfig_of_application hv ho hp⟩

end SensorSettings

end SensorLink
