import SensorLink.Session

namespace SensorLink

structure LoopOptions where
  /-- Milliseconds to wait after a poll that brought no command. -/
  pollInterval : Nat := 5000
deriving DecidableEq, Repr

inductive LoopState where
  | unstarted
  | awaitingResponse
  | processingCommand
  | exiting
deriving DecidableEq, Repr

def LoopState.inspect : LoopState → String
  | .unstarted => "Unstarted"
  | .awaitingResponse => "AwaitingResponse"
  | .processingCommand => "ProcessingCommand"
  | .exiting => "Exiting"

structure LoopReport where
  enrolled : Bool := false
  polls : Nat := 0
  executed : Nat := 0
  failed : Nat := 0
deriving DecidableEq, Repr

def LoopReport.inspect (r : LoopReport) : String :=
  Text.inspectRecord "LoopReport" [("enrolled", toString r.enrolled), ("polls", toString r.polls),
    ("commands_executed", toString r.executed), ("commands_failed", toString r.failed)]

/-- The command loop of a sensor: it restores or enrolls, then polls for commands and processes
each, until the transport asks to stop. A state change is persisted before the next request is sent.
-/
structure CommandLoop (ε β υ τ : Type) where
  session : Session β υ τ
  engine : ε
  options : LoopOptions := {}
  state : LoopState := .unstarted
  report : LoopReport := {}

namespace CommandLoop

variable {ε β υ τ : Type}

abbrev Ending := Except SensorError LoopReport

def exit (l : CommandLoop ε β υ τ) : Ending × CommandLoop ε β υ τ :=
  (.ok l.report, { l with state := .exiting })

/-- The end that an error brings: a clean one if it only says that the transport asked to stop. -/
def stop (l : CommandLoop ε β υ τ) (e : SensorError) : Ending × CommandLoop ε β υ τ :=
  if e.isExit then l.exit else (.error e, l)

def countExecuted (l : CommandLoop ε β υ τ) : CommandLoop ε β υ τ :=
  { l with report.executed := l.report.executed + 1 }

def countFailed (l : CommandLoop ε β υ τ) : CommandLoop ε β υ τ :=
  { l with report.failed := l.report.failed + 1 }

/-- The command in a poll response; one that cannot be decoded is no command. -/
def decode [Engine ε] (l : CommandLoop ε β υ τ) (response : Bytes) :
    (Command × Bytes) × CommandLoop ε β υ τ :=
  match Engine.decodeCommand l.engine response with
  | (.ok command, engine) => (command, { l with engine })
  | (.error _, engine) => ((.noCommand, []), { l with engine })

def apply [MountBackend β] [StateRecorder υ] (l : CommandLoop ε β υ τ) (change : StateChange) :
    Except SensorError Unit × CommandLoop ε β υ τ :=
  let (result, session) := l.session.apply change
  (result, { l with session })

variable [Transport τ]

def request (l : CommandLoop ε β υ τ) (bytes : Bytes) :
    Except BridgeError Bytes × CommandLoop ε β υ τ :=
  let (result, session) := l.session.request bytes
  (result, { l with session })

def confirm (l : CommandLoop ε β υ τ) : Option Bytes →
    Except SensorError Unit × CommandLoop ε β υ τ
  | none => (.ok (), l.countExecuted)
  | some bytes =>
    match l.request bytes with
    | (.error e, l) => (.error (.bridge e), l)
    | (.ok _, l) => (.ok (), l.countExecuted)

variable [Engine ε]

def poll (l : CommandLoop ε β υ τ) : Except SensorError Bytes × CommandLoop ε β υ τ :=
  match Engine.pollRequest l.engine with
  | (.error e, engine) => (.error (.engine e), { l with engine })
  | (.ok bytes, engine) =>
    match { l with engine, state := .awaitingResponse }.request bytes with
    | (.error e, l) => (.error (.bridge e), l)
    | (.ok response, l) =>
      (.ok response, { l with state := .processingCommand, report.polls := l.report.polls + 1 })

variable [MountBackend β] [StateRecorder υ]

/-- Executes a command through the engine. A command that the engine refuses is counted, and the
loop goes on. -/
def execute (l : CommandLoop ε β υ τ) (command : Command) (args : Bytes) :
    Except SensorError Unit × CommandLoop ε β υ τ :=
  match (Engine.execute l.engine command args).run l.session.bridge with
  | ((.error (.bridge e), engine), bridge) =>
    (.error (.bridge e), { l with engine, session.bridge := bridge })
  | ((.error _, engine), bridge) =>
    (.ok (), { l with engine, session.bridge := bridge }.countFailed)
  | ((.ok outcome, engine), bridge) =>
    match { l with engine, session.bridge := bridge }.apply outcome.change with
    | (.error e, l) => (.error e, l)
    | (.ok (), l) => l.confirm outcome.confirmation

def clearState (l : CommandLoop ε β υ τ) : Except SensorError Unit × CommandLoop ε β υ τ :=
  match { l with engine := Engine.reset l.engine }.apply .cleared with
  | (.error e, l) => (.error e, l)
  | (.ok (), l) => (.ok (), l.countExecuted)

def process (l : CommandLoop ε β υ τ) (command : Command) (args : Bytes) :
    Except SensorError Unit × CommandLoop ε β υ τ :=
  match command with
  | .noCommand => (.ok (), l)
  | .clearClientState => l.clearState
  | command => l.execute command args

/-- One poll and what follows from it; `none` says that the loop goes on. -/
def cycle (l : CommandLoop ε β υ τ) : Option Ending × CommandLoop ε β υ τ :=
  match l.poll with
  | (.error (.bridge .exitRequested), l) => let (ending, l) := l.exit; (some ending, l)
  | (.error e, l) => (some (.error e), l)
  | (.ok response, l) =>
    let ((command, args), l) := l.decode response
    match l.process command args with
    | (.ok (), l) => (none, l)
    | (.error e, l) => let (ending, l) := l.stop e; (some ending, l)

/-- At most `bound` rounds of polling; `none` says that the loop has not ended by then. -/
def cyclesUpTo : Nat → CommandLoop ε β υ τ → Option Ending × CommandLoop ε β υ τ
  | 0, l => (none, l)
  | bound + 1, l =>
    match l.cycle with
    | (some ending, l) => (some ending, l)
    | (none, l) => cyclesUpTo bound l

def runUpTo (bound : Nat) (l : CommandLoop ε β υ τ) : Option Ending × CommandLoop ε β υ τ :=
  match l.session.start l.engine with
  | (.error e, session, engine) =>
    let (ending, l) := { l with session, engine }.stop e
    (some ending, l)
  | (.ok enrolled, session, engine) =>
    cyclesUpTo bound { l with session, engine, report.enrolled := enrolled }

section Termination

variable [FiniteTransport τ]

def answersLeft (l : CommandLoop ε β υ τ) : Nat := l.session.bridge.answersLeft

omit [Engine ε] in
@[simp] theorem answersLeft_apply (l : CommandLoop ε β υ τ) (change : StateChange) :
    (l.apply change).2.answersLeft = l.answersLeft := by
  simp only [apply, Session.apply, answersLeft]
  split <;> rfl

omit [Engine ε] [MountBackend β] [StateRecorder υ] in
theorem answersLeft_request_le (l : CommandLoop ε β υ τ) (bytes : Bytes) :
    (l.request bytes).2.answersLeft ≤ l.answersLeft :=
  l.session.bridge.answersLeft_request_le bytes

omit [Engine ε] [MountBackend β] [StateRecorder υ] in
theorem answersLeft_confirm_le (l : CommandLoop ε β υ τ) (confirmation : Option Bytes) :
    (l.confirm confirmation).2.answersLeft ≤ l.answersLeft := by
  cases confirmation with
  | none => exact Nat.le_refl _
  | some bytes =>
    have h := l.answersLeft_request_le bytes
    simp only [confirm]
    split <;> simp_all [countExecuted, answersLeft]

omit [MountBackend β] [StateRecorder υ] in
theorem answersLeft_poll_lt {l l' : CommandLoop ε β υ τ} {response : Bytes}
    (h : l.poll = (.ok response, l')) : l'.answersLeft < l.answersLeft := by
  unfold poll at h
  split at h
  · simp at h
  · rename_i bytes engine hp
    split at h
    · simp at h
    · rename_i answer l₁ hr
      simp only [Prod.mk.injEq, Except.ok.injEq] at h
      obtain ⟨rfl, rfl⟩ := h
      have hok : (l.session.bridge.request bytes).1 = .ok answer := by
        simpa [request, Session.request] using congrArg Prod.fst hr
      have hlt := Bridge.answersLeft_request_lt hok
      have hs := congrArg (fun p => p.2.answersLeft) hr
      simp only [request, Session.request, answersLeft] at hs ⊢
      omega

theorem answersLeft_execute_le (l : CommandLoop ε β υ τ) (command : Command) (args : Bytes) :
    (l.execute command args).2.answersLeft ≤ l.answersLeft := by
  have h := (Engine.execute l.engine command args).answersLeft_run_le l.session.bridge
  simp only [execute]
  split
  · simp_all [answersLeft]
  · simp_all [answersLeft, countFailed]
  · rename_i outcome engine bridge hrun
    have ha := answersLeft_apply { l with engine, session.bridge := bridge } outcome.change
    rw [hrun] at h
    split
    · simp_all [answersLeft]
    · rename_i l' happly
      have hc := l'.answersLeft_confirm_le outcome.confirmation
      simp_all [answersLeft]
      omega

theorem answersLeft_process_le (l : CommandLoop ε β υ τ) (command : Command) (args : Bytes) :
    (l.process command args).2.answersLeft ≤ l.answersLeft := by
  unfold process
  split
  · exact Nat.le_refl _
  · have h := answersLeft_apply { l with engine := Engine.reset l.engine } .cleared
    simp only [clearState]
    split <;> simp_all [answersLeft, countExecuted]
  · exact l.answersLeft_execute_le command args

theorem answersLeft_cycle_lt {l l' : CommandLoop ε β υ τ} (h : l.cycle = (none, l')) :
    l'.answersLeft < l.answersLeft := by
  unfold cycle at h
  split at h
  · simp at h
  · simp at h
  · rename_i response l₁ hp
    have hlt := answersLeft_poll_lt hp
    have hd : (l₁.decode response).2.answersLeft = l₁.answersLeft := by
      unfold decode
      split <;> rfl
    have hle := (l₁.decode response).2.answersLeft_process_le (l₁.decode response).1.1
      (l₁.decode response).1.2
    simp only at h
    split at h
    · rename_i l₂ hproc
      simp only [Prod.mk.injEq, true_and] at h
      subst h
      rw [hproc] at hle
      simp only at hle
      omega
    · simp at h

/-- Polls and processes until the loop ends. -/
def cycles (l : CommandLoop ε β υ τ) : Ending × CommandLoop ε β υ τ :=
  match h : l.cycle with
  | (some ending, l') => (ending, l')
  | (none, l') =>
    have := answersLeft_cycle_lt h
    l'.cycles
termination_by l.answersLeft

def run (l : CommandLoop ε β υ τ) : Ending × CommandLoop ε β υ τ :=
  match l.session.start l.engine with
  | (.error e, session, engine) => { l with session, engine }.stop e
  | (.ok enrolled, session, engine) =>
    { l with session, engine, report.enrolled := enrolled }.cycles

end Termination

end CommandLoop

structure ManagerOutcome (ε β υ τ : Type) where
  result : Except SensorError LoopReport
  storage : Storage β υ
  engine : ε
  transport : τ

/-- Opens a session, runs its command loop to the end and closes the storage. -/
def runManager {ε β υ τ : Type} [Engine ε] [MountBackend β] [StateRecorder υ] [Transport τ]
    [FiniteTransport τ] (devEui : DevEui) (config : StorageConfig β υ) (files : FileTree)
    (transport : τ) (engine : ε) (options : LoopOptions) : ManagerOutcome ε β υ τ :=
  match Session.make devEui config files transport with
  | .error (e, storage) => ⟨.error e, storage, engine, transport⟩
  | .ok session =>
    let (result, l) := CommandLoop.run { session, engine, options }
    ⟨result, l.session.storage.close, l.engine, l.session.bridge.transport⟩

end SensorLink
