import SensorLink.Double.Recorder
import SensorLink.Double.Script
import SensorLink.Proofs.Loop.Manager
import SensorLink.Proofs.Loop.Trace
import SensorLink.Proofs.Storage.Footprint

namespace SensorLink

namespace Storage

variable {β υ : Type} {s s' : Storage β υ} {path : Path}

theorem exists_directory {config : StorageConfig β υ} {files : FileTree}
    (h : (make config files).recordPath? = some path) :
    ∃ base, (make config files).directory? = some base ∧ path = base.join Record.fileName := by
  cases config with
  | fileLibrary partition => exact ⟨partition.base, rfl, (Option.some.inj h).symm⟩
  | fileApplication base => exact ⟨base, rfl, (Option.some.inj h).symm⟩
  | callbackLibrary _ _ _ | callbackApplication _ _ _ => cases h

variable [MountBackend β]

theorem ensureMounted_of_prepare (h : s.prepare = (.ok (), s')) : s.ensureMounted = (.ok (), s') := by
  obtain ⟨backing, mountPoint, files⟩ := s
  rcases mountPoint with _ | ⟨base, _ | _, mounted⟩
  · exact h
  · exact h
  · cases backing with
    | callback recorder latest => exact h
    | file path =>
      simp only [prepare] at h
      split at h
      · exact h
      · cases h

theorem load_of_prepare (hr : s.recordPath? = some path) (h : s.prepare = (.ok (), s')) :
    s'.load = (Record.readAt s'.files path, s') := by
  have hmount := ensureMounted_of_prepare h
  have hm := s.ensureMounted_mounting
  have ht := s.turning_ensureMounted
  rw [hmount] at hm ht
  rw [hm.ready_of_ok.load, held_of_recordPath? (ht.recordPath?_eq.trans hr)]

theorem onlyDriven_of_prepare {config : StorageConfig β υ} {files : FileTree}
    (h : (make config files).prepare = (.ok (), s)) :
    config.OnlyDriven (make config files) s ∧ config.OnlyDriven s s.close := by
  have ht := (make config files).turning_ensureMounted
  rw [ensureMounted_of_prepare h] at ht
  have hc := make_partition? config files
  exact ⟨ht.onlyDriven hc, (s.turning false).onlyDriven (ht.partition?_eq.trans hc)⟩

theorem query_of_load {config : StorageConfig β υ} {files : FileTree}
    {state : Except PersistenceError (Option Bytes)}
    (hp : (make config files).prepare = (.ok (), s)) (h : s.load = (state, s')) :
    ((queryInitialized config files).1 = true ↔ ∃ bytes, state = .ok (some bytes)) ∧
      (queryInitialized config files).2 = s'.close := by
  have hi := s.isInitialized_iff
  have hs := s.isInitialized_snd
  rw [h] at hi hs
  rw [queryInitialized, hp]
  exact ⟨hi, congrArg close hs⟩

end Storage

namespace CounterLoop

open CommandLoop

variable {β υ τ : Type} [Transport τ] [MountBackend β] [StateRecorder υ]
  {l l' : CounterLoop β υ τ} {result : Option Ending} {sends : List (Sending CounterEngine β υ τ)}

omit [Transport τ] [MountBackend β] [StateRecorder υ] in
theorem confirmation_ne_enrollRequest (c : Command) :
    CounterEngine.confirmation c ≠ CounterEngine.enrollRequest := by
  cases c <;> decide +kernel

theorem Round.no_enrollRequest (h : Round l result l' sends) :
    ∀ s ∈ sends, s.request ≠ CounterEngine.enrollRequest := by
  have hpoll : l.asked.request ≠ CounterEngine.enrollRequest := CounterEngine.poll_ne_enrollRequest
  have hconfirm (c : Command) : (l.confirming c).request ≠ CounterEngine.enrollRequest :=
    confirmation_ne_enrollRequest c
  cases h <;> simp [hpoll, hconfirm]

theorem no_enrollRequest_cycles (bound : Nat) (l : CounterLoop β υ τ) :
    ∀ s ∈ cyclesSendsUpTo bound l, s.request ≠ CounterEngine.enrollRequest :=
  rounds_induction (motive := fun _ _ _ sends => ∀ s ∈ sends, s.request ≠ CounterEngine.enrollRequest)
    (fun _ => List.forall_mem_nil _) (fun _ _ _ _ h => h.no_enrollRequest)
    (fun _ _ _ _ _ _ h ih => List.forall_mem_append.2 ⟨h.no_enrollRequest, ih⟩) bound l

theorem cyclesSends_cons (bound : Nat) (l : CounterLoop β υ τ) :
    ∃ rest, cyclesSendsUpTo (bound + 1) l = l.asked :: rest := by
  have hhead := l.cycle_round.head?_eq
  obtain ⟨rest, hrest⟩ := List.head?_eq_some_iff.1 hhead
  unfold cyclesSendsUpTo
  rw [hrest]
  exact ⟨_, List.cons_append ..⟩

/-- How a run starts that finds its record at the path. -/
structure StartsBy (l : CounterLoop β υ τ) (path : Path) : Prop where
  /-- Where there is no record, the first request enrolls the device. -/
  absent : l.session.storage.files.read path = .error .notFound → ∀ bound, ∃ first rest,
    sendsUpTo bound l = first :: rest ∧ first.request = CounterEngine.enrollRequest
  /-- Where the record stands for a state, the device is not enrolled, and the first request polls
  with the engine in that state. -/
  restored : ∀ record state, l.session.storage.files.read path = .ok record →
    Record.decode record = .ok state →
    (∀ bound, ∀ s ∈ sendsUpTo bound l, s.request ≠ CounterEngine.enrollRequest) ∧
    ∀ bound, ∃ first rest, sendsUpTo (bound + 1) l = first :: rest ∧
      first.request = CounterEngine.poll ∧
      first.loop.engine = { l.engine with state := some state }
  /-- Anything else ends the run before its first request, with nothing done. -/
  refused : l.session.storage.files.read path ≠ .error .notFound →
    (∀ record state, l.session.storage.files.read path = .ok record →
      Record.decode record ≠ .ok state) →
    ∃ e, ∀ bound, sendsUpTo bound l = [] ∧ runUpTo bound l = (some (.error (.persistence e)), l)

section Loaded

variable {storage : Storage β υ}

theorem ends_of_unread {e : PersistenceError} (h : l.session.storage.load = (.error e, storage))
    (bound : Nat) : sendsUpTo bound l = [] ∧
      runUpTo bound l = (some (.error (.persistence e)), { l with session.storage := storage }) := by
  obtain ⟨hopened, hsends⟩ := (Opening.unread h).opened_eq
  rw [sendsUpTo_eq, runUpTo_eq, hopened, hsends]
  exact ⟨rfl, rfl⟩

/-- With a state the run begins with the rounds of the restored engine. -/
theorem sends_of_state {state : Bytes} (h : l.session.storage.load = (.ok (some state), storage))
    (bound : Nat) : sendsUpTo bound l = cyclesSendsUpTo bound
      { l with session.storage := storage, engine.state := some state, report.enrolled := false } := by
  obtain ⟨hopened, hsends⟩ := (Opening.restored h).opened_eq
  rw [sendsUpTo_eq, hopened, hsends, List.nil_append]

theorem startsBy_of_load {path : Path}
    (h : l.session.storage.load =
      (Record.readAt l.session.storage.files path, l.session.storage)) : StartsBy l path where
  absent := by
    intro habsent bound
    rw [Record.readAt_eq_none_iff.2 habsent] at h
    rw [sendsUpTo_eq, startSends_of_none h]
    exact ⟨_, _, rfl, rfl⟩
  restored := by
    intro record state hread hdecode
    rw [Record.readAt_eq_some_iff.2 ⟨record, hread, hdecode⟩] at h
    refine ⟨fun bound => ?_, fun bound => ?_⟩
    · rw [sends_of_state h]
      exact no_enrollRequest_cycles bound _
    · obtain ⟨rest, hrest⟩ := cyclesSends_cons bound
        { l with engine.state := some state, report.enrolled := false }
      exact ⟨_, rest, (sends_of_state h (bound + 1)).trans hrest, rfl, rfl⟩
  refused := by
    -- a record that reads as none is missing, and one that reads as a state stands for it
    intro hpresent hrefused
    cases hstored : Record.readAt l.session.storage.files path with
    | error e => exact ⟨e, ends_of_unread (hstored ▸ h)⟩
    | ok found =>
      cases found with
      | none => exact absurd (Record.readAt_eq_none_iff.1 hstored) hpresent
      | some state =>
        obtain ⟨record, hread, hdecode⟩ := Record.readAt_eq_some_iff.1 hstored
        exact absurd hdecode (hrefused record state hread)

end Loaded

end CounterLoop

section Start

variable {ε β υ τ : Type} [Engine ε] [MountBackend β] [StateRecorder υ] [Transport τ]
  {config : StorageConfig β υ} {files : FileTree} {s : Storage β υ}

def CommandLoop.closed (run : Option Ending × CommandLoop ε β υ τ) :
    Option (ManagerOutcome ε β υ τ) :=
  run.1.map fun result =>
    ⟨result, run.2.session.storage.close, run.2.engine, run.2.session.bridge.transport⟩

/-- On a prepared storage a manager is a run that is closed at its end. -/
theorem managerUpTo_of_prepare (devEui : DevEui) (transport : τ) (engine : ε)
    (options : LoopOptions) (hp : (Storage.make config files).prepare = (.ok (), s)) (bound : Nat) :
    managerUpTo bound devEui config files transport engine options =
      CommandLoop.closed (CommandLoop.runUpTo bound
        { session := ⟨devEui, s, { transport }⟩, engine, options }) := by
  have hs : Session.make devEui config files transport =
      .ok ⟨devEui, s, { transport }⟩ := by rw [Session.make, hp]
  rw [managerUpTo, hs]
  simp only
  rcases CommandLoop.runUpTo bound _ with ⟨_ | result, l⟩ <;> rfl

end Start

open CommandLoop CounterLoop

/-- The record of a prepared storage decides how a manager starts: it enrolls the device, restores the
engine, or ends with an error of persistence before any request. A query of the configuration says
that there is a state where the engine is restored, and nowhere else. Neither the query nor a start
that fails does anything to the files but what the driver of the library's partition does. What is
found of the record is the entry of its name in the directory of the storage. -/
theorem start_follows_record {β υ τ : Type} [MountBackend β] [StateRecorder υ] [Transport τ]
    (devEui : DevEui) (config : StorageConfig β υ) (files : FileTree) (transport : τ)
    (engine : CounterEngine) (options : LoopOptions) {path : Path} {s : Storage β υ}
    (hr : (Storage.make config files).recordPath? = some path)
    (hp : (Storage.make config files).prepare = (.ok (), s)) :
    let l := unstarted ⟨devEui, s, { transport }⟩ engine options
    StartsBy l path ∧
    (∀ bound, l.Carries (sendsUpTo bound l) (runUpTo bound l).2 ∧
      managerUpTo bound devEui config files transport engine options = closed (runUpTo bound l)) ∧
    (∀ [FiniteTransport τ] outcome,
      runManager devEui config files transport engine options = outcome ↔
        ∃ bound, managerUpTo bound devEui config files transport engine options = some outcome) ∧
    ((Storage.queryInitialized config files).1 = true ↔
      ∃ record state, s.files.read path = .ok record ∧ Record.decode record = .ok state) ∧
    (Storage.queryInitialized config files).2 = s.close ∧
    config.OnlyDriven (Storage.make config files) s ∧ config.OnlyDriven s s.close ∧
    ((∀ (b : β) base label t, (MountBackend.unmount b base label t).2.2 = t) →
      s.close.files = s.files) ∧
    ∃ base, (Storage.make config files).directory? = some base ∧
      path = base.join Record.fileName ∧
      (s.files.isDir base = true → path.byteCount ≤ s.files.longestPath →
        ∃ dir, s.files.enter [] base.segments = .ok dir ∧
          s.files.read path = s.files.readEntry (Record.fileName :: dir)) := by
  intro l
  obtain ⟨hopen, hclose⟩ := Storage.onlyDriven_of_prepare hp
  have hload := Storage.load_of_prepare hr hp
  obtain ⟨hquery, hleft⟩ := Storage.query_of_load hp hload
  have hstart : StartsBy l path := startsBy_of_load hload
  refine ⟨hstart, fun bound => ⟨l.carries_runUpTo bound, managerUpTo_of_prepare _ _ _ _ hp bound⟩,
    fun outcome => runManager_eq_iff .., ?_, hleft, hopen, hclose,
    (Storage.turning false s).files_eq, ?_⟩
  · simp only [hquery, Record.readAt_eq_some_iff]
    exact exists_comm
  · obtain ⟨base, hdirectory, rfl⟩ := Storage.exists_directory hr
    exact ⟨base, hdirectory, rfl, Record.read_below⟩

theorem start_follows_record_in_directory :
    let config : StorageConfig DirectoryBackend NotingRecorder :=
      .fileLibrary ⟨⟨["data"]⟩, "client", {}⟩
    let files (entry : Entry) : FileTree :=
      (FileTree.put {} ["data"] .dir).put [Record.fileName, "data"] entry
    let s (entry : Entry) := (Storage.make config (files entry)).prepare.2
    let transport : ScriptedTransport := { replies := [.respond [1]] }
    let l (entry : Entry) := unstarted ⟨⟨1⟩, s entry, { transport }⟩ {} {}
    (∀ entry, (Storage.make config (files entry)).recordPath? = some ⟨["data", Record.fileName]⟩ ∧
      (Storage.make config (files entry)).prepare = (.ok (), s entry)) ∧
    (∀ bound, ∀ q ∈ sendsUpTo bound (l (.file [1, 0, 0, 0, 7])),
      q.request ≠ CounterEngine.enrollRequest) ∧
    (∀ bound, ∃ first rest, sendsUpTo (bound + 1) (l (.file [1, 0, 0, 0, 7])) = first :: rest ∧
      first.request = CounterEngine.poll ∧ first.loop.engine = { state := some [7] }) ∧
    (∃ e, (∀ bound, sendsUpTo bound (l .dir) = []) ∧
      runManager ⟨1⟩ config (files .dir) transport ({} : CounterEngine) {} =
        ⟨.error (.persistence e), (s .dir).close, {}, transport⟩) ∧
    (s .dir).close.files = (s .dir).files := by
  intro config files s transport l
  have hrecord (entry : Entry) :
      (Storage.make config (files entry)).recordPath? = some ⟨["data", Record.fileName]⟩ := rfl
  have hprepare (entry : Entry) :
      (Storage.make config (files entry)).prepare = (.ok (), s entry) := Prod.ext (by rfl) rfl
  have h (entry : Entry) := start_follows_record ⟨1⟩ config (files entry) transport {} {}
    (hrecord entry) (hprepare entry)
  obtain ⟨hnever, hpoll⟩ := (h (.file [1, 0, 0, 0, 7])).1.restored _ [7] (by rfl) rfl
  obtain ⟨hstart, hmanager, hends, -, -, -, -, hfiles, -⟩ := h .dir
  have hread : (s .dir).files.read ⟨["data", Record.fileName]⟩ = .error .isADirectory := by rfl
  obtain ⟨e, hrun⟩ := hstart.refused (fun hno => nomatch hread.symm.trans hno)
    fun record state hok => nomatch hread.symm.trans hok
  have hdone : runManager ⟨1⟩ config (files .dir) transport ({} : CounterEngine) {} =
      ⟨.error (.persistence e), (s .dir).close, {}, transport⟩ :=
    (hends _).2 ⟨0, by rw [(hmanager 0).2, (hrun 0).2]; rfl⟩
  exact ⟨fun entry => ⟨hrecord entry, hprepare entry⟩, hnever, hpoll,
    ⟨e, fun bound => (hrun bound).1, hdone⟩, hfiles fun _ _ _ _ => rfl⟩

end SensorLink
