import SensorLink.Proofs.Loop.Sends
import SensorLink.Proofs.Storage.Discipline
import SensorLink.Proofs.Storage.Told

namespace SensorLink

namespace CommandLoop

variable {ε β υ τ : Type} [MountBackend β] [StateRecorder υ]

structure Kept (P : Storage β υ → Prop) : Prop where
  load : ∀ s, P s → P s.load.2
  persist : ∀ s state, P s → P (s.persist state).2

variable {P : Storage β υ → Prop}

theorem Kept.session_apply (hk : Kept P) {s : Session β υ τ} (h : P s.storage)
    (change : StateChange) : P (s.apply change).2.storage := by
  unfold Session.apply
  split
  · exact h
  · exact hk.persist _ _ h

theorem Kept.apply (hk : Kept P) {l : CommandLoop ε β υ τ} (h : P l.session.storage)
    (change : StateChange) : P (l.apply change).2.session.storage := hk.session_apply h change

section Bridge

variable [Transport τ]

omit [MountBackend β] [StateRecorder υ] in
theorem storage_request (l : CommandLoop ε β υ τ) (bytes : Bytes) :
    (l.request bytes).2.session.storage = l.session.storage := rfl

omit [MountBackend β] [StateRecorder υ] in
theorem storage_confirm (l : CommandLoop ε β υ τ) (confirmation : Option Bytes) :
    (l.confirm confirmation).2.session.storage = l.session.storage := by
  cases confirmation with
  | none => rfl
  | some bytes =>
    have hs := l.storage_request bytes
    unfold confirm
    rcases hr : l.request bytes with ⟨e | answer, l'⟩ <;> rw [hr] at hs <;> simp only [hr] <;>
      exact hs

variable [Engine ε]

omit [MountBackend β] [StateRecorder υ] in
theorem storage_poll (l : CommandLoop ε β υ τ) :
    l.poll.2.session.storage = l.session.storage := by
  unfold poll
  rcases Engine.pollRequest l.engine with ⟨e | bytes, engine⟩
  · rfl
  · have hs := storage_request { l with engine, state := .awaitingResponse } bytes
    rcases hr : request { l with engine, state := .awaitingResponse } bytes with ⟨e | answer, l'⟩ <;>
      rw [hr] at hs <;> simp only [hr] <;> exact hs

theorem Kept.execute (hk : Kept P) {l : CommandLoop ε β υ τ} (h : P l.session.storage)
    (command : Command) (args : Bytes) : P (l.execute command args).2.session.storage := by
  unfold CommandLoop.execute
  rcases (Engine.execute l.engine command args).run l.session.bridge with ⟨⟨result, engine⟩, bridge⟩
  cases result with
  | error e => cases e <;> exact h
  | ok outcome =>
    -- the dialogue went over the bridge alone; the change is what reaches the storage
    have ha := hk.apply (l := { l with engine, session.bridge := bridge }) h outcome.change
    simp only
    rcases hr : CommandLoop.apply { l with engine, session.bridge := bridge } outcome.change with
      ⟨e | ⟨⟩, l'⟩ <;> rw [hr] at ha
    · exact ha
    · simp only [storage_confirm]
      exact ha

theorem Kept.process (hk : Kept P) {l : CommandLoop ε β υ τ} (h : P l.session.storage)
    (command : Command) (args : Bytes) : P (l.process command args).2.session.storage := by
  cases command with
  | noCommand => exact h
  | clearClientState =>
    have ha := hk.apply (l := { l with engine := Engine.reset l.engine }) h .cleared
    simp only [CommandLoop.process, clearState]
    rcases hr : CommandLoop.apply { l with engine := Engine.reset l.engine } .cleared with
      ⟨e | ⟨⟩, l'⟩ <;> rw [hr] at ha <;> exact ha
  | startSendingMessages | subscribeToAnnouncementLink | registerKeyloadMessage
  | printlnSubscriberStatus => exact hk.execute h _ args

theorem Kept.cycle (hk : Kept P) {l : CommandLoop ε β υ τ} (h : P l.session.storage) :
    P l.cycle.2.session.storage := by
  have hp : P l.poll.2.session.storage := l.storage_poll ▸ h
  unfold CommandLoop.cycle
  rcases hpoll : l.poll with ⟨e | response, l₁⟩ <;> rw [hpoll] at hp
  · cases e with
    | bridge e => cases e <;> exact hp
    | persistence _ | engine _ | stateNotPersisted => exact hp
  · have hd : (l₁.decode response).2.session = l₁.session := by
      unfold decode
      split <;> rfl
    rcases hdec : l₁.decode response with ⟨⟨command, args⟩, l₂⟩
    rw [hdec] at hd
    have hproc := hk.process (l := l₂) (hd ▸ hp) command args
    rcases hres : l₂.process command args with ⟨e | ⟨⟩, l₃⟩ <;> rw [hres] at hproc
    · simp only [hdec, hres, session_stop]
      exact hproc
    · simp only [hdec, hres]
      exact hproc

theorem Kept.cyclesUpTo (hk : Kept P) (bound : Nat) {l : CommandLoop ε β υ τ}
    (h : P l.session.storage) : P (CommandLoop.cyclesUpTo bound l).2.session.storage := by
  induction bound generalizing l with
  | zero => exact h
  | succ bound ih =>
    have hc := hk.cycle h
    unfold CommandLoop.cyclesUpTo
    rcases hcycle : l.cycle with ⟨_ | ending, l'⟩ <;> rw [hcycle] at hc
    · exact ih hc
    · exact hc

theorem Kept.start (hk : Kept P) {s : Session β υ τ} (h : P s.storage) (e : ε) :
    P (s.start e).2.1.storage := by
  have hl := hk.load _ h
  unfold Session.start
  rcases hload : s.storage.load with ⟨err | _ | state, storage⟩ <;> rw [hload] at hl
  · exact hl
  · rcases (Engine.enroll e).run s.bridge with ⟨⟨err | state, engine⟩, bridge⟩
    · exact hl
    · exact hk.session_apply (s := { s with storage, bridge }) hl (.updated state)
  · exact hl

theorem Kept.runUpTo (hk : Kept P) (bound : Nat) {l : CommandLoop ε β υ τ}
    (h : P l.session.storage) : P (CommandLoop.runUpTo bound l).2.session.storage := by
  have hs := hk.start h l.engine
  unfold CommandLoop.runUpTo
  rcases hstart : l.session.start l.engine with ⟨e | enrolled, session, engine⟩ <;> rw [hstart] at hs
  · simp only [session_stop]
    exact hs
  · exact hk.cyclesUpTo bound hs

end Bridge

end CommandLoop

def Storage.UsedInto {β υ : Type} [MountBackend β] [StateRecorder υ] (s s' : Storage β υ) : Prop :=
  ∃ uses, s' = s.useAll uses

theorem Storage.UsedInto.use {β υ : Type} [MountBackend β] [StateRecorder υ] {s s' : Storage β υ}
    (h : s.UsedInto s') (u : Use) : s.UsedInto (s'.use u).2 := by
  obtain ⟨uses, rfl⟩ := h
  exact ⟨uses ++ [u], (s.useAll_append uses [u]).symm⟩

theorem CommandLoop.kept_usedInto {β υ : Type} [MountBackend β] [StateRecorder υ]
    (s : Storage β υ) : Kept s.UsedInto where
  load _ h := h.use .load
  persist _ state h := h.use (.persist state)

section Manager

variable {ε β υ τ : Type} [Engine ε] [MountBackend β] [StateRecorder υ] [Transport τ]

/-- A sensor manager with at most `bound` rounds of polling, over any transport; `none` says that it
has not ended by then. -/
def managerUpTo (bound : Nat) (devEui : DevEui) (config : StorageConfig β υ) (files : FileTree)
    (transport : τ) (engine : ε) (options : LoopOptions) : Option (ManagerOutcome ε β υ τ) :=
  match Session.make devEui config files transport with
  | .error (e, storage) => some ⟨.error e, storage, engine, transport⟩
  | .ok session =>
    match CommandLoop.runUpTo bound { session, engine, options } with
    | (none, _) => none
    | (some result, l) => some ⟨result, l.session.storage.close, l.engine, l.session.bridge.transport⟩

variable (devEui : DevEui) (config : StorageConfig β υ) (files : FileTree) (transport : τ)
  (engine : ε) (options : LoopOptions)

theorem exists_managerUpTo_eq [FiniteTransport τ] :
    ∃ bound, managerUpTo bound devEui config files transport engine options =
      some (runManager devEui config files transport engine options) := by
  unfold managerUpTo runManager
  rcases Session.make devEui config files transport with ⟨e, storage⟩ | session
  · exact ⟨0, rfl⟩
  · obtain ⟨bound, h⟩ := CommandLoop.exists_runUpTo_eq_run
      ({ session, engine, options } : CommandLoop ε β υ τ)
    exact ⟨bound, by simp only [h]⟩

theorem runManager_of_managerUpTo [FiniteTransport τ] {bound : Nat}
    {outcome : ManagerOutcome ε β υ τ}
    (h : managerUpTo bound devEui config files transport engine options = some outcome) :
    runManager devEui config files transport engine options = outcome := by
  unfold managerUpTo at h
  unfold runManager
  rcases hs : Session.make devEui config files transport with ⟨e, storage⟩ | session <;> rw [hs] at h
  · exact Option.some.inj h
  · rcases hr : CommandLoop.runUpTo bound { session, engine, options } with ⟨_ | result, l⟩
    · simp only [hr] at h
      cases h
    · simp only [hr] at h
      simp only [CommandLoop.run_of_runUpTo hr]
      exact Option.some.inj h

/-- A manager ends as it does within some number of rounds. -/
theorem runManager_eq_iff [FiniteTransport τ] {outcome : ManagerOutcome ε β υ τ} :
    runManager devEui config files transport engine options = outcome ↔
      ∃ bound, managerUpTo bound devEui config files transport engine options = some outcome := by
  constructor
  · rintro rfl
    exact exists_managerUpTo_eq ..
  · exact fun ⟨bound, h⟩ => runManager_of_managerUpTo _ _ _ _ _ _ h

theorem exists_uses_of_manager {bound : Nat} {outcome : ManagerOutcome ε β υ τ}
    (h : managerUpTo bound devEui config files transport engine options = some outcome) :
    ∃ uses, outcome.storage = ((Storage.make config files).useAll uses).close := by
  have hprepare : (Storage.make config files).UsedInto (Storage.make config files).prepare.2 :=
    ⟨[.prepare], rfl⟩
  unfold managerUpTo Session.make at h
  rcases hp : (Storage.make config files).prepare with ⟨e | ⟨⟩, s⟩ <;> rw [hp] at h hprepare
  · obtain ⟨uses, rfl⟩ := hprepare
    cases h
    exact ⟨uses, rfl⟩
  · -- from the prepared storage on, a run only loads and persists
    have hrun := (CommandLoop.kept_usedInto (Storage.make config files)).runUpTo bound
      (l := ⟨⟨devEui, s, { transport }⟩, engine, options, .unstarted, {}⟩) hprepare
    rcases hr : CommandLoop.runUpTo bound ⟨⟨devEui, s, { transport }⟩, engine, options, .unstarted, {}⟩
      with ⟨_ | result, l⟩
    · simp only [hr] at h
      cases h
    · rw [hr] at hrun
      obtain ⟨uses, huses⟩ := hrun
      simp only [hr] at h
      cases h
      exact ⟨uses, congrArg Storage.close huses⟩

end Manager

/-- A library's mount flag says whether the last successful call of the driver was a mount. A mount
is asked for only while the partition is not mounted and an unmount only while it is, always with the
same base and label, so successful calls alternate; a failed call leaves the flag, and the next use
asks again. A storage works on its state only while the partition is mounted, and once it is closed,
mounts and unmounts are balanced unless the last unmount failed. A sensor manager closes its storage
however it ends. A partition of the application is never touched. -/
theorem mount_discipline {ε β υ τ : Type} [Engine ε] [MountBackend β] [StateRecorder υ]
    [Transport τ] :
    (∀ (partition : Partition β) (turns : List (Bool × FileTree)),
      let m := partition.mountPoint
      Disciplined partition.base partition.label (m.turnActsAll turns) (m.turnAll turns).mounted ∧
      ∀ on t, (m.turnAll turns).Turns partition.base partition.label on t) ∧
    (∀ (base : Path) (turns : List (Bool × FileTree)),
      let m : MountPoint β := { base, owner := .application }
      m.turnActsAll turns = [] ∧ m.turnAll turns = m ∧ ∀ t,
        m.mount t = (.error (.notOwner base), m, t) ∧ m.unmount t = (.ok (), m, t)) ∧
    (∀ (config : StorageConfig β υ) (files : FileTree) (uses : List Storage.Use),
      let s := Storage.make config files
      Leads s.surroundings (s.actsAll uses) (s.useAll uses).surroundings ∧
      Leads s.surroundings (s.lifeActs uses) (s.useAll uses).close.surroundings ∧
      match config.partition? with
      | some partition => s.Managed partition.base partition.label uses
      | none => s.Unmanaged uses) ∧
    (∀ uses, Storage.Told (fun s : Storage β υ => (s.answers uses, s.useAll uses))
      (·.actsAll uses)) ∧
    (∀ (devEui : DevEui) (config : StorageConfig β υ) (files : FileTree) (transport : τ) (engine : ε)
      (options : LoopOptions),
      (∀ bound outcome,
        managerUpTo bound devEui config files transport engine options = some outcome →
        ∃ uses, outcome.storage = ((Storage.make config files).useAll uses).close) ∧
      ∀ [FiniteTransport τ], ∃ bound, managerUpTo bound devEui config files transport engine options =
        some (runManager devEui config files transport engine options)) := by
  refine ⟨fun partition turns => ?_, fun base turns => ?_, fun config files uses => ?_,
    Storage.told_useAll, fun devEui config files transport engine options =>
      ⟨fun _ _ => exists_uses_of_manager _ _ _ _ _ _, exists_managerUpTo_eq ..⟩⟩
  · have hp : partition.mountPoint.partition? = some (partition.base, partition.label) := rfl
    exact ⟨MountPoint.disciplined_turnAll hp .nil turns,
      MountPoint.turns ((partition.mountPoint.turnAll_partition? turns).trans hp)⟩
  · obtain ⟨hturns, hacts⟩ := MountPoint.turnAll_application (β := β) base false turns
    exact ⟨hacts, hturns, fun t => ⟨rfl, rfl⟩⟩
  · refine ⟨Storage.leads_useAll _ uses, Storage.leads_life _ uses, ?_⟩
    have hp := Storage.make_partition? config files
    cases hc : config.partition? with
    | none =>
      rw [hc] at hp
      exact Storage.unmanaged hp uses
    | some partition =>
      rw [hc] at hp
      exact Storage.managed hp (Storage.make_isMounted config files) uses

end SensorLink
