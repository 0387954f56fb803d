import SensorLink.Proofs.Record.Footprint
import SensorLink.Proofs.Storage.Discipline

namespace SensorLink

/-- How a driver and a tree change together: by calls of the driver, and as `own` allows. -/
inductive Changed {β : Type} [MountBackend β] (base : Path) (label : String)
    (own : FileTree → FileTree → Prop) : Option β × FileTree → Option β × FileTree → Prop where
  | refl {p : Option β × FileTree} : Changed base label own p p
  | driven {p : Option β × FileTree} {on : Bool} {b b' : β} {t t' : FileTree}
      {answer : Except IoError Unit} (h : Changed base label own p (some b, t))
      (hd : MountBackend.turn on b base label t = (answer, b', t')) :
      Changed base label own p (some b', t')
  | own {p : Option β × FileTree} {b : Option β} {t t' : FileTree}
      (h : Changed base label own p (b, t)) (ho : own t t') : Changed base label own p (b, t')

namespace Changed

variable {β : Type} [MountBackend β] {base : Path} {label : String}
  {own : FileTree → FileTree → Prop}

theorem trans {p q r : Option β × FileTree} (h : Changed base label own p q)
    (h' : Changed base label own q r) : Changed base label own p r := by
  induction h' with
  | refl => exact h
  | driven _ hd ih => exact ih.driven hd
  | own _ ho ih => exact ih.own ho

theorem without_driver (hr : ∀ t, own t t) (ht : ∀ t t' t'', own t t' → own t' t'' → own t t'')
    {p q : Option β × FileTree} (h : Changed base label own p q) (hp : p.1 = none) :
    own p.2 q.2 ∧ q.1 = none := by
  induction h with
  | refl => exact ⟨hr _, hp⟩
  | driven _ _ ih => cases ih.2
  | own _ ho ih => exact ⟨ht _ _ _ ih.1 ho, ih.2⟩

end Changed

namespace Storage

variable {β υ : Type} [MountBackend β] {s s' : Storage β υ} {base : Path} {label : String}
  {own : FileTree → FileTree → Prop} {acts : List Act}

omit [MountBackend β] in
def outside (s : Storage β υ) : Option β × FileTree := (s.surroundings.driver, s.files)

theorem Turning.changed {on : Bool} {result : Except PersistenceError Unit}
    (h : Turning on s acts result s') (hp : ∀ q, s.partition? = some q → q = (base, label)) :
    Changed base label own s.outside s'.outside := by
  cases h with
  | idle _ => exact .refl
  | driven hd =>
    cases hp _ rfl
    exact Changed.refl.driven hd

variable [StateRecorder υ]

theorem store_changed (state : Bytes)
    (ho : ∀ path t, s.recordPath? = some path → own t (Record.writeAt t path state).2) :
    Changed base label own s.outside (s.store state).2.outside := by
  obtain ⟨backing, mountPoint, files⟩ := s
  cases backing with
  | file path => exact Changed.refl.own (ho path files rfl)
  | callback recorder latest =>
    simp only [store]
    rcases StateRecorder.update recorder state with ⟨_ | _, recorder'⟩ <;> exact .refl

theorem Using.changed (h : Using s acts s') (hp : ∀ q, s.partition? = some q → q = (base, label))
    (ho : ∀ path t state, s.recordPath? = some path → own t (Record.writeAt t path state).2) :
    Changed base label own s.outside s'.outside := by
  cases h with
  | looked _ => exact .refl
  | turned h | read h => exact h.changed hp
  | stored h state =>
    refine (h.changed hp).trans (store_changed state fun path t hr => ho path t state ?_)
    rw [← h.recordPath?_eq, hr]

theorem changed_useAll (hp : ∀ q, s.partition? = some q → q = (base, label))
    (ho : ∀ path t state, s.recordPath? = some path → own t (Record.writeAt t path state).2)
    (uses : List Use) : Changed base label own s.outside (s.useAll uses).outside :=
  useAll_induction (motive := fun _ s' => Changed base label own s.outside s'.outside) .refl
    (fun _ _ _ _ hp' hr' h hu => h.trans (hu.changed (hp' ▸ hp) (hr' ▸ ho))) uses

/-- Over any uses, a storage without a driver changes its tree only as each of its writes does. -/
theorem own_useAll (hp : s.partition? = none) (hd : s.surroundings.driver = none)
    (hr : ∀ t, own t t) (ht : ∀ t t' t'', own t t' → own t' t'' → own t t'')
    (ho : ∀ path t state, s.recordPath? = some path → own t (Record.writeAt t path state).2)
    (uses : List Use) : own s.files (s.useAll uses).files := by
  have h : Changed ⟨[]⟩ "" own s.outside (s.useAll uses).outside :=
    changed_useAll (fun q hq => by rw [hp] at hq; cases hq) ho uses
  exact (h.without_driver hr ht hd).1

end Storage

/-- What a storage opened by the configuration may have changed in the tree. -/
def StorageConfig.Footprint {β υ : Type} [MountBackend β] (config : StorageConfig β υ)
    (files : FileTree) (s : Storage β υ) : Prop :=
  match config with
  | .callbackApplication .. => s.files = files
  | .callbackLibrary partition .. =>
    Changed partition.base partition.label (fun _ _ => False) (some partition.backend, files) s.outside
  | .fileApplication path => Record.OnlyRecord path files s.files
  | .fileLibrary partition => Changed partition.base partition.label
      (Record.OnlyRecord partition.base) (some partition.backend, files) s.outside

/-- From the one storage to the other nothing was done to the files but calls of the configuration's
driver. -/
def StorageConfig.OnlyDriven {β υ : Type} [MountBackend β] (config : StorageConfig β υ)
    (s s' : Storage β υ) : Prop :=
  match config.partition? with
  | none => s'.files = s.files
  | some partition =>
    Changed partition.base partition.label (fun _ _ => False) s.outside s'.outside

theorem Storage.Turning.onlyDriven {β υ : Type} [MountBackend β] {config : StorageConfig β υ}
    {s s' : Storage β υ} {on : Bool} {acts : List Act} {result : Except PersistenceError Unit}
    (h : Storage.Turning on s acts result s')
    (hc : s.partition? = config.partition?.map fun p => (p.base, p.label)) :
    config.OnlyDriven s s' := by
  unfold StorageConfig.OnlyDriven
  cases hp : config.partition? with
  | none =>
    rw [hp] at hc
    rw [(h.of_unmanaged hc).2.2]
  | some partition =>
    rw [hp] at hc
    exact h.changed fun q hq => (Option.some.inj (hc.symm.trans hq)).symm

theorem Storage.Turning.files_eq {β υ : Type} [MountBackend β] {s s' : Storage β υ}
    {acts : List Act} {result : Except PersistenceError Unit}
    (h : Storage.Turning false s acts result s')
    (hu : ∀ (b : β) base label t, (MountBackend.unmount b base label t).2.2 = t) :
    s'.files = s.files := by
  cases h with
  | idle _ => rfl
  | driven hd => exact (congrArg (fun turned => turned.2.2) hd).symm.trans (hu ..)

namespace Storage

variable {β υ : Type} [MountBackend β] [StateRecorder υ]

theorem footprint_useAll (config : StorageConfig β υ) (files : FileTree) (uses : List Use) :
    config.Footprint files ((make config files).useAll uses) := by
  cases config with
  | fileLibrary partition =>
    refine changed_useAll (s := make (.fileLibrary partition) files) (fun q hq => ?_) ?_ uses
    · exact (Option.some.inj hq).symm
    · rintro _ t state ⟨⟩
      exact Record.onlyRecord_writeAt t partition.base state
  | fileApplication path =>
    refine own_useAll (s := make (.fileApplication path) files) rfl rfl (Record.OnlyRecord.refl path)
      (fun _ _ _ => .trans) ?_ uses
    rintro _ t state ⟨⟩
    exact Record.onlyRecord_writeAt t path state
  | callbackLibrary partition seed recorder =>
    refine changed_useAll (s := make (.callbackLibrary partition seed recorder) files)
      (fun q hq => ?_) ?_ uses
    · exact (Option.some.inj hq).symm
    · rintro _ t state ⟨⟩
  | callbackApplication path seed recorder =>
    refine Eq.symm (own_useAll (s := make (.callbackApplication path seed recorder) files)
      (by cases path <;> rfl) (by cases path <;> rfl) (fun _ => rfl) (fun _ _ _ => .trans) ?_ uses)
    rintro _ t state ⟨⟩

/-- A storage in a directory of the application keeps its path, its mount point and all directories. -/
theorem useAll_of_application (path : Path) (files : FileTree) (uses : List Use) :
    ∃ t, (make (.fileApplication path : StorageConfig β υ) files).useAll uses =
        ⟨.file (path.join Record.fileName), some ⟨path, .application, false⟩, t⟩ ∧
      Record.OnlyRecord path files t := by
  have ho : Record.OnlyRecord path files
      ((make (.fileApplication path : StorageConfig β υ) files).useAll uses).files :=
    footprint_useAll (.fileApplication path) files uses
  have hm := (quiet_useAll (s := make (.fileApplication path : StorageConfig β υ) files) rfl uses).2
  have hr := (make (.fileApplication path : StorageConfig β υ) files).recordPath?_useAll uses
  generalize (make (.fileApplication path : StorageConfig β υ) files).useAll uses = s at ho hm hr ⊢
  obtain ⟨backing, mountPoint, t⟩ := s
  cases hm
  cases backing with
  | file p =>
    cases hr
    exact ⟨t, rfl, ho⟩
  | callback recorder latest => cases hr

/-- How a storage fares whose directory is missing. -/
structure Homeless (s : Storage β υ) (path : Path) : Prop where
  prepare : s.prepare = (.error (.noDirectory path), s)
  tryPersist : ∀ state, state ≠ [] → ∃ e, (s.tryPersist state).1 = .error e
  persist : ∀ state, state ≠ [] → (s.persist state).1 = false

theorem homeless_useAll {path : Path} {files : FileTree} (hd : files.Missing path)
    (uses : List Use) :
    Homeless ((make (.fileApplication path : StorageConfig β υ) files).useAll uses) path := by
  obtain ⟨t, hs, ho⟩ := useAll_of_application (β := β) (υ := υ) path files uses
  have hmissing : t.Missing path := ho.dirs.missing hd
  have htry (state : Bytes) (hne : state ≠ []) : ∃ e,
      (((make (.fileApplication path : StorageConfig β υ) files).useAll uses).tryPersist state).1 =
        .error e := by
    rw [hs]
    exact Record.writeAt_of_missing hmissing hne
  rw [hs] at htry ⊢
  refine ⟨?_, htry, fun state hne => ?_⟩
  · simp only [Storage.prepare, hmissing.isDir]
    rfl
  · obtain ⟨e, he⟩ := htry state hne
    refine Bool.eq_false_iff.2 fun hp => ?_
    cases he.symm.trans ((persist_iff _ _).1 hp)

def SameIfMissing (path : Path) (t t' : FileTree) : Prop := t.Missing path → t' = t

theorem sameIfMissing_useAll (path : Path) (files : FileTree) (uses : List Use) :
    SameIfMissing path files
      ((make (.fileApplication path : StorageConfig β υ) files).useAll uses).files := by
  refine own_useAll (s := make (.fileApplication path) files) rfl rfl (fun _ _ => rfl)
    (fun t t' t'' h h' hm => ?_) ?_ uses
  · obtain rfl := h hm
    exact h' hm
  · rintro _ t state ⟨⟩ hm
    exact Record.writeAt_snd_of_missing hm state

theorem close_useAll (s : Storage β υ) (uses : List Use) :
    (s.useAll uses).close = s.useAll (uses ++ [.release]) := (s.useAll_append uses [.release]).symm

/-- The storage's own part of a file tree. With a callback it has none; with a file that is the
record below the directory and its draft, and directories stay. What else changes, the driver of the
library's partition does. Where the directory of the application is missing, no state is recorded and
nothing changes. -/
theorem footprint (config : StorageConfig β υ) (files : FileTree) (uses : List Use) :
    let s := make config files
    config.Footprint files (s.useAll uses) ∧ config.Footprint files (s.useAll uses).close ∧
    ∀ path, config = .fileApplication path → files.Missing path →
      (s.useAll uses).Homeless path ∧
      (s.useAll uses).files = files ∧ (s.useAll uses).close.files = files := by
  intro s
  refine ⟨footprint_useAll config files uses, ?_, ?_⟩
  · rw [close_useAll]
    exact footprint_useAll config files _
  · rintro path rfl hd
    refine ⟨homeless_useAll hd uses, sameIfMissing_useAll path files uses hd, ?_⟩
    rw [close_useAll]
    exact sameIfMissing_useAll path files _ hd

end Storage

end SensorLink
