import SensorLink.Proofs.Storage.Contract

namespace SensorLink

/-- A partition stays open however a write of its record ends. -/
def StorageConfig.Withstands {β υ : Type} (opened : β → FileTree → Prop) : StorageConfig β υ → Prop
  | .fileLibrary partition => ∀ b t state result t', opened b t →
      Record.WriteEnds t (partition.base.join Record.fileName) state result t' → opened b t'
  | _ => True

theorem DirectoryBackend.withstands {υ : Type} (partition : Partition DirectoryBackend) :
    (StorageConfig.fileLibrary partition : StorageConfig DirectoryBackend υ).Withstands
      fun _ t => t.Made partition.base :=
  fun _ _ _ _ _ ho he => ho.writeEnds he

theorem ScriptedBackend.withstands {υ : Type} (partition : Partition ScriptedBackend) :
    (StorageConfig.fileLibrary partition : StorageConfig ScriptedBackend υ).Withstands
      fun b t => b.directory = true → t.Made partition.base :=
  fun _ _ _ _ _ ho he hd => (ho hd).writeEnds he

namespace Storage

variable {β υ : Type}

/-- The process is gone, and the next one opens the storage as it was left: it knows of no mount. -/
def abandon (s : Storage β υ) : Storage β υ :=
  { s with mountPoint := s.mountPoint.map fun m => { m with mounted := false } }

structure Attempt where
  state : Bytes
  result : Option (Except PersistenceError Unit)

/-- What can be read after attempts to persist. One that reports an error changes nothing, one that
reports success is what is read then, and one that was cut short is either. -/
inductive Remembers (first : Except PersistenceError (Option Bytes)) :
    List Attempt → Except PersistenceError (Option Bytes) → Prop where
  | nil : Remembers first [] first
  | kept {past : List Attempt} {reading : Except PersistenceError (Option Bytes)} {a : Attempt}
      (h : Remembers first past reading) (ha : a.result ≠ some (.ok ())) :
      Remembers first (past ++ [a]) reading
  | replaced {past : List Attempt} {reading : Except PersistenceError (Option Bytes)} {a : Attempt}
      (h : Remembers first past reading) (ha : ∀ e, a.result ≠ some (.error e)) :
      Remembers first (past ++ [a]) (.ok (Record.content a.state))

theorem Remembers.attempt {first reading reading' : Except PersistenceError (Option Bytes)}
    {past : List Attempt} {state : Bytes} {result : Option (Except PersistenceError Unit)}
    (h : Remembers first past reading)
    (ha : (reading' = reading ∧ result ≠ some (.ok ())) ∨
      (reading' = .ok (Record.content state) ∧ ∀ e, result ≠ some (.error e))) :
    Remembers first (past ++ [⟨state, result⟩]) reading' := by
  rcases ha with ⟨rfl, hne⟩ | ⟨rfl, hne⟩
  · exact .kept h hne
  · exact .replaced (a := ⟨state, result⟩) h hne

variable [MountBackend β] [StateRecorder υ]

/-- How a persist can end where the medium can fail and the process can stop. -/
inductive PersistEnds (s : Storage β υ) (state : Bytes) :
    Option (Except PersistenceError Unit) → Storage β υ → Prop where
  | through : PersistEnds s state (some (s.tryPersist state).1) (s.tryPersist state).2
  | written {path : Path} {result : Option (Except PersistenceError Unit)} {t : FileTree}
      (hm : s.ensureMounted.1 = .ok ()) (hp : s.ensureMounted.2.recordPath? = some path)
      (hw : Record.WriteEnds s.ensureMounted.2.files path state result t) :
      PersistEnds s state result { s.ensureMounted.2 with files := t }
  | stoppedBefore : PersistEnds s state none s

/-- A storage in use on a medium that can fail, with the attempts to persist. -/
inductive Endures (config : StorageConfig β υ) (s : Storage β υ) :
    List Attempt → Storage β υ → Prop where
  | start : Endures config s [] s
  | prepare {past : List Attempt} {s' : Storage β υ} (h : Endures config s past s') :
      Endures config s past s'.prepare.2
  | release {past : List Attempt} {s' : Storage β υ} (h : Endures config s past s') :
      Endures config s past s'.release.2
  | load {past : List Attempt} {s' : Storage β υ} (h : Endures config s past s') :
      Endures config s past s'.load.2
  | reopen {past : List Attempt} {s' : Storage β υ} (h : Endures config s past s') :
      Endures config s past (s'.reopen config)
  | persist {past : List Attempt} {s' s'' : Storage β υ} {state : Bytes}
      {result : Except PersistenceError Unit} (h : Endures config s past s')
      (he : s'.PersistEnds state (some result) s'') :
      Endures config s (past ++ [⟨state, some result⟩]) s''
  | stopped {past : List Attempt} {s' s'' : Storage β υ} {state : Bytes}
      (hf : config.kind = .file) (h : Endures config s past s')
      (he : s'.PersistEnds state none s'') :
      Endures config s (past ++ [⟨state, none⟩]) s''.abandon

namespace Represents

variable {opened : β → FileTree → Prop}
  {held : β → FileTree → Except PersistenceError (Option Bytes)}
  {config : StorageConfig β υ} {s s' : Storage β υ} {c : Cell υ} {state : Bytes}
  {result : Option (Except PersistenceError Unit)}

omit [MountBackend β] [StateRecorder υ] in
theorem abandon (h : Represents opened held config s c) :
    Represents opened held config s.abandon c := by
  cases h with
  | library ho hh hn => exact .library (by simp) hh hn
  | application hr hn => exact .application hr hn
  | callback hk hl hr => exact .callback hk hl hr

omit [StateRecorder υ] in
theorem written (h : Represents opened held config s c) (hk : config.KeepsRecord opened held)
    (hw : config.Withstands opened) (hs : s.Ready) {path : Path} {t : FileTree}
    (hp : s.recordPath? = some path) (he : Record.WriteEnds s.files path state result t)
    {c' : Cell υ} (hc : c'.reading = Record.readAt t path) (hr : c'.recorder = c.recorder) :
    Represents opened held config { s with files := t } c' := by
  cases h with
  | @library partition b mounted files c ho hh hn =>
    obtain rfl := Option.some.inj hp
    have ho' := hw b files state result t (ho (hs _ rfl rfl)) he
    exact .library (fun _ => ho') ((hk.shows ho').symm.trans hc.symm) (hr.trans hn)
  | application hread hn =>
    obtain rfl := Option.some.inj hp
    exact .application hc.symm (hr.trans hn)
  | callback hkind hl hn => cases hp

theorem persistEnds (h : Represents opened held config s c) (hk : config.KeepsRecord opened held)
    (hw : config.Withstands opened) (he : s.PersistEnds state result s') :
    ∃ c', Represents opened held config s' c' ∧
      ((c'.reading = c.reading ∧ result ≠ some (.ok ())) ∨
        (c'.reading = .ok (Record.content state) ∧ ∀ e, result ≠ some (.error e))) := by
  cases he with
  | stoppedBefore => exact ⟨c, h, Or.inl ⟨rfl, by simp⟩⟩
  | through =>
    refine ⟨_, h.tryPersist hk state, ?_⟩
    rw [tryPersist_eq]
    rcases hs : s.ensureMounted with ⟨e | ⟨⟩, s₁⟩
    · exact Or.inl ⟨rfl, by simp⟩
    · rcases s₁.store_held state with ⟨hok, -⟩ | ⟨e, he, -⟩
      · exact Or.inr ⟨by simp [Cell.persist, Cell.put, hok], by simp [hok]⟩
      · exact Or.inl ⟨by simp [Cell.persist, Cell.put, he], by simp [he]⟩
  | @written path result t hm hp he =>
    have hready : s.ensureMounted.2.Ready := by
      have hmounting := s.ensureMounted_mounting
      rw [hm] at hmounting
      exact hmounting.ready_of_ok
    have hrep := h.ensureMounted hk
    have hheld := hrep.held_of_ready hk hready
    rw [held_of_recordPath? hp] at hheld
    -- the record is what it was, or holds the new state; the partition is open in both cases
    rcases he.cases with ⟨hu, hres⟩ | ⟨hr, hres⟩
    · exact ⟨c, hrep.written hk hw hready hp he (hheld.symm.trans hu.readAt.symm) rfl,
        Or.inl ⟨rfl, hres⟩⟩
    · let c' : Cell υ := ⟨.ok (Record.content state), c.recorder, by
        intro heq
        exact Record.content_ne_nil state (Except.ok.inj heq)⟩
      exact ⟨c', hrep.written hk hw hready hp he hr.readAt.symm rfl, Or.inr ⟨rfl, hres⟩⟩

theorem endures {past : List Attempt} (h : Represents opened held config s c)
    (hk : config.KeepsRecord opened held) (hw : config.Withstands opened)
    (he : Endures config s past s') :
    ∃ c', Represents opened held config s' c' ∧ Remembers c.reading past c'.reading := by
  induction he with
  | start => exact ⟨c, h, .nil⟩
  | prepare _ ih =>
    obtain ⟨c', hc, hr⟩ := ih
    exact ⟨c', hc.prepare hk, hr⟩
  | @release past s₁ _ ih =>
    obtain ⟨c', hc, hr⟩ := ih
    exact ⟨c', hc.releasing hk s₁.release_releasing, hr⟩
  | load _ ih =>
    obtain ⟨c', hc, hr⟩ := ih
    exact ⟨c', hc.load hk, hr⟩
  | reopen _ ih =>
    obtain ⟨c', hc, hr⟩ := ih
    exact ⟨c', hc.reopen hk, hr⟩
  | persist _ hend ih =>
    obtain ⟨c', hc, hr⟩ := ih
    obtain ⟨c'', hc', hcase⟩ := hc.persistEnds hk hw hend
    exact ⟨c'', hc', hr.attempt hcase⟩
  | stopped _ _ hend ih =>
    obtain ⟨c', hc, hr⟩ := ih
    obtain ⟨c'', hc', hcase⟩ := hc.persistEnds hk hw hend
    exact ⟨c'', hc'.abandon, hr.attempt hcase⟩

end Represents

/-- A medium that fails and a process that stops cost a storage no more than the persist they
interrupt. -/
theorem load_after_faults (config : StorageConfig β υ) (files : FileTree) (c : Cell υ)
    (opened : β → FileTree → Prop) (held : β → FileTree → Except PersistenceError (Option Bytes))
    (hk : config.KeepsRecord opened held) (hw : config.Withstands opened)
    (hc : c.reading = config.reading held files) (hr : c.recorder = config.recorder?)
    {past : List Attempt} {s : Storage β υ} (h : Endures config (make config files) past s) :
    ∃ reading, Remembers c.reading past reading ∧
      s.load.1 = s.ensureMounted.1.bind fun _ => reading := by
  obtain ⟨c', hrep, hrem⟩ := (Represents.make hc hr).endures hk hw h
  exact ⟨c'.reading, hrem, hrep.load_eq hk⟩

end Storage

theorem DirectoryBackend.load_after_faults {υ : Type} [StateRecorder υ]
    (partition : Partition DirectoryBackend) (files : FileTree)
    (hf : readMade partition.base files ≠ .ok (some [])) {past : List Storage.Attempt}
    {s : Storage DirectoryBackend υ}
    (h : Storage.Endures (.fileLibrary partition) (.make (.fileLibrary partition) files) past s) :
    ∃ reading, Storage.Remembers (readMade partition.base files) past reading ∧
      s.load.1 = s.ensureMounted.1.bind fun _ => reading :=
  Storage.load_after_faults (.fileLibrary partition) files ⟨_, none, hf⟩ _ _
    (DirectoryBackend.keepsRecord partition.base partition.label)
    (DirectoryBackend.withstands partition) rfl rfl h

end SensorLink
