import SensorLink.Double.CounterEngine
import SensorLink.Proofs.Bridge.Answers
import SensorLink.Proofs.Loop.Sends

namespace SensorLink

/-- The command in a response; one that cannot be decoded carries none. -/
def Command.carriedBy (response : Bytes) : Command :=
  match Command.decode response with
  | .ok (command, _) => command
  | .error _ => .noCommand

abbrev CounterLoop (β υ τ : Type) := CommandLoop CounterEngine β υ τ

namespace CounterLoop

open CommandLoop

section Moments

variable {β υ τ : Type}

def unstarted (session : Session β υ τ) (engine : CounterEngine) (options : LoopOptions) :
    CounterLoop β υ τ := { session, engine, options }

def asked (l : CounterLoop β υ τ) : Sending CounterEngine β υ τ :=
  ⟨{ l with state := .awaitingResponse }, CounterEngine.poll⟩

/-- The engine has executed a command, and its new state is not persisted yet. -/
def bumped (l : CounterLoop β υ τ) (c : Command) : CounterLoop β υ τ :=
  { l with engine.executed := l.engine.executed ++ [c], engine.state := some l.engine.nextState }

def forgotten (l : CounterLoop β υ τ) : CounterLoop β υ τ := { l with engine.state := none }

def stored [MountBackend β] [StateRecorder υ] (l : CounterLoop β υ τ) (state : Bytes) :
    CounterLoop β υ τ :=
  { l with session.storage := (l.session.storage.persist state).2 }

variable [Transport τ]

def unanswered (l : CounterLoop β υ τ) : CounterLoop β υ τ :=
  { l with session := (l.session.request CounterEngine.poll).2, state := .awaitingResponse }

def answered (l : CounterLoop β υ τ) : CounterLoop β υ τ :=
  { l with
    session := (l.session.request CounterEngine.poll).2
    state := .processingCommand
    report.polls := l.report.polls + 1 }

/-- The command of a poll is executed, and the persist of the new state tried. -/
def executed [MountBackend β] [StateRecorder υ] (l : CounterLoop β υ τ) (c : Command) :
    CounterLoop β υ τ :=
  (l.answered.bumped c).stored l.engine.nextState

def confirming [MountBackend β] [StateRecorder υ] (l : CounterLoop β υ τ) (c : Command) :
    Sending CounterEngine β υ τ :=
  ⟨l.executed c, CounterEngine.confirmation c⟩

def confirmed [MountBackend β] [StateRecorder υ] (l : CounterLoop β υ τ) (c : Command) :
    CounterLoop β υ τ :=
  ((l.executed c).request (CounterEngine.confirmation c)).2

def enrolling (l : CounterLoop β υ τ) (storage : Storage β υ) : Sending CounterEngine β υ τ :=
  ⟨{ l with session.storage := storage }, CounterEngine.enrollRequest⟩

def enrollSent (l : CounterLoop β υ τ) (storage : Storage β υ) : CounterLoop β υ τ :=
  { l with
    session.storage := storage
    session.bridge := (l.session.bridge.request CounterEngine.enrollRequest).2 }

/-- The enrollment has brought a state, and its persist has been tried. -/
def enrolled [MountBackend β] [StateRecorder υ] (l : CounterLoop β υ τ) (storage : Storage β υ)
    (state : Bytes) : CounterLoop β υ τ :=
  stored { l.enrollSent storage with engine.state := some state } state

@[simp] theorem state_unanswered (l : CounterLoop β υ τ) :
    l.unanswered.state = .awaitingResponse := rfl

@[simp] theorem state_executed [MountBackend β] [StateRecorder υ] (l : CounterLoop β υ τ)
    (c : Command) : (l.executed c).state = .processingCommand := rfl

@[simp] theorem state_confirmed [MountBackend β] [StateRecorder υ] (l : CounterLoop β υ τ)
    (c : Command) : (l.confirmed c).state = .processingCommand := rfl

end Moments

variable {β υ τ : Type} [Transport τ] [MountBackend β] [StateRecorder υ]

/-- What a round of polling comes to: its ending, if it ends the run, the loop after it, and its
sends. -/
inductive Round (l : CounterLoop β υ τ) :
    Option Ending → CounterLoop β υ τ → List (Sending CounterEngine β υ τ) → Prop where
  | pollExit (h : l.asked.outcome.result = .error .exitRequested) :
      Round l (some (.ok l.report)) { l.unanswered with state := .exiting } [l.asked]
  | pollFailed {e : BridgeError} (h : l.asked.outcome.result = .error e)
      (he : e ≠ .exitRequested) :
      Round l (some (.error (.bridge e))) l.unanswered [l.asked]
  | idle {response : Bytes} (h : l.asked.outcome.result = .ok response)
      (hc : Command.carriedBy response = .noCommand) :
      Round l none l.answered [l.asked]
  | cleared {response : Bytes} (h : l.asked.outcome.result = .ok response)
      (hc : Command.carriedBy response = .clearClientState)
      (hp : (l.session.storage.persist []).1 = true) :
      Round l none (l.answered.forgotten.stored []).countExecuted [l.asked]
  | clearLost {response : Bytes} (h : l.asked.outcome.result = .ok response)
      (hc : Command.carriedBy response = .clearClientState)
      (hp : (l.session.storage.persist []).1 = false) :
      Round l (some (.error .stateNotPersisted)) (l.answered.forgotten.stored []) [l.asked]
  | refused {response : Bytes} {c : Command} (h : l.asked.outcome.result = .ok response)
      (hc : Command.carriedBy response = c) (hn : c ≠ .noCommand) (hx : c ≠ .clearClientState)
      (hf : c ∈ l.engine.failing) :
      Round l none l.answered.countFailed [l.asked]
  | lost {response : Bytes} {c : Command} (h : l.asked.outcome.result = .ok response)
      (hc : Command.carriedBy response = c) (hn : c ≠ .noCommand) (hx : c ≠ .clearClientState)
      (hf : c ∉ l.engine.failing)
      (hp : (l.session.storage.persist l.engine.nextState).1 = false) :
      Round l (some (.error .stateNotPersisted)) (l.executed c) [l.asked]
  | confirmed {response answer : Bytes} {c : Command} (h : l.asked.outcome.result = .ok response)
      (hc : Command.carriedBy response = c) (hn : c ≠ .noCommand) (hx : c ≠ .clearClientState)
      (hf : c ∉ l.engine.failing)
      (hp : (l.session.storage.persist l.engine.nextState).1 = true)
      (ha : (l.confirming c).outcome.result = .ok answer) :
      Round l none (l.confirmed c).countExecuted [l.asked, l.confirming c]
  | confirmExit {response : Bytes} {c : Command} (h : l.asked.outcome.result = .ok response)
      (hc : Command.carriedBy response = c) (hn : c ≠ .noCommand) (hx : c ≠ .clearClientState)
      (hf : c ∉ l.engine.failing)
      (hp : (l.session.storage.persist l.engine.nextState).1 = true)
      (ha : (l.confirming c).outcome.result = .error .exitRequested) :
      Round l (some (.ok l.answered.report)) { l.confirmed c with state := .exiting }
        [l.asked, l.confirming c]
  | confirmFailed {response : Bytes} {c : Command} {e : BridgeError}
      (h : l.asked.outcome.result = .ok response)
      (hc : Command.carriedBy response = c) (hn : c ≠ .noCommand) (hx : c ≠ .clearClientState)
      (hf : c ∉ l.engine.failing)
      (hp : (l.session.storage.persist l.engine.nextState).1 = true)
      (ha : (l.confirming c).outcome.result = .error e) (he : e ≠ .exitRequested) :
      Round l (some (.error (.bridge e))) (l.confirmed c) [l.asked, l.confirming c]

/-- What the start of a run comes to: its ending, if it goes no further, the loop after it, and its
sends. -/
inductive Opening (l : CounterLoop β υ τ) :
    Option Ending → CounterLoop β υ τ → List (Sending CounterEngine β υ τ) → Prop where
  | unread {e : PersistenceError} {storage : Storage β υ}
      (h : l.session.storage.load = (.error e, storage)) :
      Opening l (some (.error (.persistence e))) { l with session.storage := storage } []
  | restored {state : Bytes} {storage : Storage β υ}
      (h : l.session.storage.load = (.ok (some state), storage)) :
      Opening l none
        { l with session.storage := storage, engine.state := some state, report.enrolled := false } []
  | enrollExit {storage : Storage β υ} (h : l.session.storage.load = (.ok none, storage))
      (ha : (l.enrolling storage).outcome.result = .error .exitRequested) :
      Opening l (some (.ok l.report)) { l.enrollSent storage with state := .exiting }
        [l.enrolling storage]
  | enrollFailed {storage : Storage β υ} {e : BridgeError}
      (h : l.session.storage.load = (.ok none, storage))
      (ha : (l.enrolling storage).outcome.result = .error e) (he : e ≠ .exitRequested) :
      Opening l (some (.error (.engine (.bridge e)))) (l.enrollSent storage) [l.enrolling storage]
  | enrolled {storage : Storage β υ} {state : Bytes}
      (h : l.session.storage.load = (.ok none, storage))
      (ha : (l.enrolling storage).outcome.result = .ok state)
      (hp : (storage.persist state).1 = true) :
      Opening l none { l.enrolled storage state with report.enrolled := true } [l.enrolling storage]
  | enrollLost {storage : Storage β υ} {state : Bytes}
      (h : l.session.storage.load = (.ok none, storage))
      (ha : (l.enrolling storage).outcome.result = .ok state)
      (hp : (storage.persist state).1 = false) :
      Opening l (some (.error .stateNotPersisted)) (l.enrolled storage state) [l.enrolling storage]

theorem Round.failing_eq {l l' : CounterLoop β υ τ} {result : Option Ending}
    {sends : List (Sending CounterEngine β υ τ)} (h : Round l result l' sends) :
    l'.engine.failing = l.engine.failing := by
  cases h <;> rfl

theorem Opening.failing_eq {l l' : CounterLoop β υ τ} {result : Option Ending}
    {sends : List (Sending CounterEngine β υ τ)} (h : Opening l result l' sends) :
    l'.engine.failing = l.engine.failing := by
  cases h <;> rfl

omit [MountBackend β] [StateRecorder υ] in
theorem poll_eq (l : CounterLoop β υ τ) :
    l.poll =
      match l.asked.outcome.result with
      | .ok response => (.ok response, l.answered)
      | .error e => (.error (.bridge e), l.unanswered) := by
  have h : (l.session.bridge.request CounterEngine.poll).1 = l.asked.outcome.result := rfl
  simp only [CommandLoop.poll, Engine.pollRequest, request, Session.request, h]
  cases l.asked.outcome.result <;> rfl

theorem confirm_executed (l : CounterLoop β υ τ) (c : Command) :
    (l.executed c).confirm (some (CounterEngine.confirmation c)) =
      match (l.confirming c).outcome.result with
      | .ok _ => (.ok (), (l.confirmed c).countExecuted)
      | .error e => (.error (.bridge e), l.confirmed c) := by
  have h : ((l.executed c).session.bridge.request (CounterEngine.confirmation c)).1 =
      (l.confirming c).outcome.result := rfl
  simp only [confirm, request, Session.request, h]
  cases (l.confirming c).outcome.result <;> rfl

omit [Transport τ] [MountBackend β] [StateRecorder υ] in
theorem decode_eq (l : CounterLoop β υ τ) (response : Bytes) :
    ∃ args, l.decode response = ((Command.carriedBy response, args), l) := by
  simp only [decode, Engine.decodeCommand, Engine.decodePlain, Command.carriedBy]
  cases Command.decode response with
  | ok command => exact ⟨command.2, rfl⟩
  | error e => exact ⟨[], rfl⟩

omit [Transport τ] in
theorem apply_eq (l : CounterLoop β υ τ) {change : StateChange} {state : Bytes}
    (h : change.state? = some state) :
    l.apply change =
      (if (l.session.storage.persist state).1 then .ok () else .error .stateNotPersisted,
        l.stored state) := by
  simp only [apply, Session.apply, h]
  rfl

omit [Transport τ] in
theorem apply_of_persist (l : CounterLoop β υ τ) (change : StateChange) {state : Bytes}
    (h : change.state? = some state) (hp : (l.session.storage.persist state).1 = true) :
    l.apply change = (.ok (), l.stored state) := by
  rw [l.apply_eq h, hp]
  rfl

omit [Transport τ] in
theorem apply_of_refusal (l : CounterLoop β υ τ) (change : StateChange) {state : Bytes}
    (h : change.state? = some state) (hp : (l.session.storage.persist state).1 = false) :
    l.apply change = (.error .stateNotPersisted, l.stored state) := by
  rw [l.apply_eq h, hp]
  rfl

omit [Transport τ] in
theorem clearState_of_persist (l : CounterLoop β υ τ)
    (hp : (l.session.storage.persist []).1 = true) :
    l.clearState = (.ok (), (l.forgotten.stored []).countExecuted) := by
  have h := l.forgotten.apply_of_persist .cleared rfl hp
  simp only [forgotten] at h
  simp only [clearState, Engine.reset, h]
  rfl

omit [Transport τ] in
theorem clearState_of_refusal (l : CounterLoop β υ τ)
    (hp : (l.session.storage.persist []).1 = false) :
    l.clearState = (.error .stateNotPersisted, l.forgotten.stored []) := by
  have h := l.forgotten.apply_of_refusal .cleared rfl hp
  simp only [forgotten] at h
  simp only [clearState, Engine.reset, h]
  rfl

section Execute

variable {c : Command} (l : CounterLoop β υ τ) (args : Bytes)

theorem execute_of_failing (hf : c ∈ l.engine.failing) :
    l.execute c args = (.ok (), l.countFailed) ∧ l.executeSends c args = [] := by
  have he : l.engine.executeCommand c = (.error (.failed (c.name ++ " refused")), l.engine) := by
    rw [CounterEngine.executeCommand, if_pos hf]
  constructor
  · simp only [execute, Engine.execute, Dialogue.run, he]
  · simp only [executeSends, askSends, Engine.execute, Dialogue.sends, Dialogue.run, he]
    rfl

omit [Transport τ] [MountBackend β] [StateRecorder υ] in
theorem executeCommand_of_not_failing (hf : c ∉ l.engine.failing) :
    l.engine.executeCommand c =
      (.ok ⟨.updated l.engine.nextState, some (CounterEngine.confirmation c)⟩,
        (l.bumped c).engine) := by
  rw [CounterEngine.executeCommand, if_neg hf]
  rfl

theorem execute_of_refusal (hf : c ∉ l.engine.failing)
    (hp : (l.session.storage.persist l.engine.nextState).1 = false) :
    l.execute c args = (.error .stateNotPersisted, (l.bumped c).stored l.engine.nextState) ∧
      l.executeSends c args = [] := by
  have he := l.executeCommand_of_not_failing hf
  have h := (l.bumped c).apply_of_refusal (.updated l.engine.nextState) rfl hp
  simp only [bumped] at h
  constructor
  · simp only [execute, Engine.execute, Dialogue.run, he, bumped, h]
  · simp only [executeSends, askSends, Engine.execute, Dialogue.sends, Dialogue.run, he, bumped, h]
    rfl

theorem execute_of_persist (hf : c ∉ l.engine.failing)
    (hp : (l.session.storage.persist l.engine.nextState).1 = true) :
    l.execute c args =
        ((l.bumped c).stored l.engine.nextState).confirm (some (CounterEngine.confirmation c)) ∧
      l.executeSends c args =
        [⟨(l.bumped c).stored l.engine.nextState, CounterEngine.confirmation c⟩] := by
  have he := l.executeCommand_of_not_failing hf
  have h := (l.bumped c).apply_of_persist (.updated l.engine.nextState) rfl hp
  simp only [bumped] at h
  constructor
  · simp only [execute, Engine.execute, Dialogue.run, he, bumped, h]
  · simp only [executeSends, askSends, Engine.execute, Dialogue.sends, Dialogue.run, he, bumped, h]
    rfl

theorem process_eq_execute (hn : c ≠ .noCommand) (hx : c ≠ .clearClientState) :
    l.process c args = l.execute c args ∧ l.processSends c args = l.executeSends c args := by
  cases c with
  | noCommand => exact absurd rfl hn
  | clearClientState => exact absurd rfl hx
  | startSendingMessages | subscribeToAnnouncementLink | registerKeyloadMessage
  | printlnSubscriberStatus => exact ⟨rfl, rfl⟩

end Execute

theorem cycle_of_response (l : CounterLoop β υ τ) {response : Bytes}
    (h : l.asked.outcome.result = .ok response) :
    ∃ args, l.cycle =
        (match l.answered.process (Command.carriedBy response) args with
        | (.ok (), l) => (none, l)
        | (.error e, l) => (some (l.stop e).1, (l.stop e).2)) ∧
      l.cycleSends = l.asked :: l.answered.processSends (Command.carriedBy response) args := by
  obtain ⟨args, hd⟩ := l.answered.decode_eq response
  refine ⟨args, ?_, ?_⟩
  · rw [cycle, poll_eq, h]
    simp only [hd]
    rcases l.answered.process (Command.carriedBy response) args with ⟨e | ⟨⟩, l'⟩ <;> rfl
  · rw [cycleSends, poll_eq, h]
    simp only [hd]
    rfl

/-- What a round comes to whose command is persisted rests with the answer to the confirmation. -/
theorem cycle_of_persist (l : CounterLoop β υ τ) {response : Bytes} {c : Command}
    (h : l.asked.outcome.result = .ok response) (hc : Command.carriedBy response = c)
    (hn : c ≠ .noCommand) (hx : c ≠ .clearClientState) (hf : c ∉ l.engine.failing)
    (hp : (l.session.storage.persist l.engine.nextState).1 = true) :
    l.cycle =
        (match (l.confirming c).outcome.result with
        | .ok _ => (none, (l.confirmed c).countExecuted)
        | .error e => (some ((l.confirmed c).stop (.bridge e)).1,
            ((l.confirmed c).stop (.bridge e)).2)) ∧
      l.cycleSends = [l.asked, l.confirming c] := by
  obtain ⟨args, hcycle, hsends⟩ := l.cycle_of_response h
  obtain ⟨hproc, hprocSends⟩ := l.answered.process_eq_execute args hn hx
  obtain ⟨he, hes⟩ := l.answered.execute_of_persist args hf hp
  have hexec : (l.answered.bumped c).stored l.answered.engine.nextState = l.executed c := rfl
  rw [hcycle, hsends, hc, hproc, hprocSends, he, hes, hexec, confirm_executed]
  refine ⟨?_, rfl⟩
  cases (l.confirming c).outcome.result <;> rfl

theorem Round.cycle_eq {l l' : CounterLoop β υ τ} {result : Option Ending}
    {sends : List (Sending CounterEngine β υ τ)} (h : Round l result l' sends) :
    l.cycle = (result, l') ∧ l.cycleSends = sends := by
  have hfailed {e : BridgeError} (h : l.asked.outcome.result = .error e) :
      l.cycleSends = [l.asked] := by
    rw [cycleSends, poll_eq, h]
    rfl
  -- evaluate the round along the branch that its case names
  cases h with
  | pollExit h =>
    refine ⟨?_, hfailed h⟩
    rw [cycle, poll_eq, h]
    rfl
  | @pollFailed e h he =>
    refine ⟨?_, hfailed h⟩
    rw [cycle, poll_eq, h]
    cases e with
    | exitRequested => exact absurd rfl he
    | transport _ | noResponse => rfl
  | idle h hc =>
    obtain ⟨args, hcycle, hsends⟩ := l.cycle_of_response h
    rw [hcycle, hsends, hc]
    exact ⟨rfl, rfl⟩
  | cleared h hc hp =>
    obtain ⟨args, hcycle, hsends⟩ := l.cycle_of_response h
    rw [hcycle, hsends, hc, show l.answered.process .clearClientState args = _ from
      l.answered.clearState_of_persist hp]
    exact ⟨rfl, rfl⟩
  | clearLost h hc hp =>
    obtain ⟨args, hcycle, hsends⟩ := l.cycle_of_response h
    rw [hcycle, hsends, hc, show l.answered.process .clearClientState args = _ from
      l.answered.clearState_of_refusal hp]
    exact ⟨rfl, rfl⟩
  | refused h hc hn hx hf =>
    obtain ⟨args, hcycle, hsends⟩ := l.cycle_of_response h
    obtain ⟨hproc, hprocSends⟩ := l.answered.process_eq_execute args hn hx
    obtain ⟨he, hes⟩ := l.answered.execute_of_failing args hf
    rw [hcycle, hsends, hc, hproc, hprocSends, he, hes]
    exact ⟨rfl, rfl⟩
  | lost h hc hn hx hf hp =>
    obtain ⟨args, hcycle, hsends⟩ := l.cycle_of_response h
    obtain ⟨hproc, hprocSends⟩ := l.answered.process_eq_execute args hn hx
    obtain ⟨he, hes⟩ := l.answered.execute_of_refusal args hf hp
    rw [hcycle, hsends, hc, hproc, hprocSends, he, hes]
    exact ⟨rfl, rfl⟩
  | confirmed h hc hn hx hf hp ha | confirmExit h hc hn hx hf hp ha =>
    obtain ⟨hcycle, hsends⟩ := l.cycle_of_persist h hc hn hx hf hp
    rw [hcycle, hsends, ha]
    exact ⟨rfl, rfl⟩
  | @confirmFailed response c e h hc hn hx hf hp ha he =>
    obtain ⟨hcycle, hsends⟩ := l.cycle_of_persist h hc hn hx hf hp
    rw [hcycle, hsends, ha]
    cases e with
    | exitRequested => exact absurd rfl he
    | transport _ | noResponse => exact ⟨rfl, rfl⟩

theorem exists_round (l : CounterLoop β υ τ) : ∃ result l' sends, Round l result l' sends := by
  cases h : l.asked.outcome.result with
  | error e =>
    cases e with
    | exitRequested => exact ⟨_, _, _, .pollExit h⟩
    | transport _ | noResponse => exact ⟨_, _, _, .pollFailed h (by simp)⟩
  | ok response =>
    generalize hc : Command.carriedBy response = c
    by_cases hn : c = .noCommand
    · subst hn
      exact ⟨_, _, _, .idle h hc⟩
    · by_cases hx : c = .clearClientState
      · subst hx
        cases hp : (l.session.storage.persist []).1 with
        | true => exact ⟨_, _, _, .cleared h hc hp⟩
        | false => exact ⟨_, _, _, .clearLost h hc hp⟩
      -- a command for the engine: refused, not persisted, or confirmed with some answer
      · by_cases hf : c ∈ l.engine.failing
        · exact ⟨_, _, _, .refused h hc hn hx hf⟩
        · cases hp : (l.session.storage.persist l.engine.nextState).1 with
          | false => exact ⟨_, _, _, .lost h hc hn hx hf hp⟩
          | true =>
            cases ha : (l.confirming c).outcome.result with
            | ok answer => exact ⟨_, _, _, .confirmed h hc hn hx hf hp ha⟩
            | error e =>
              cases e with
              | exitRequested => exact ⟨_, _, _, .confirmExit h hc hn hx hf hp ha⟩
              | transport _ | noResponse =>
                exact ⟨_, _, _, .confirmFailed h hc hn hx hf hp ha (by simp)⟩

theorem cycle_round (l : CounterLoop β υ τ) : Round l l.cycle.1 l.cycle.2 l.cycleSends := by
  obtain ⟨result, l', sends, h⟩ := l.exists_round
  rw [h.cycle_eq.1, h.cycle_eq.2]
  exact h

/-- Any number of rounds: what holds of no round, and carries over from all further rounds to one
more round before them, holds of all of them. -/
theorem rounds_induction
    {motive : CounterLoop β υ τ → Option Ending → CounterLoop β υ τ →
      List (Sending CounterEngine β υ τ) → Prop}
    (still : ∀ l, motive l none l [])
    (last : ∀ l ending l' sends, Round l (some ending) l' sends → motive l (some ending) l' sends)
    (more : ∀ l l' sends result l'' rest, Round l none l' sends → motive l' result l'' rest →
      motive l result l'' (sends ++ rest))
    (bound : Nat) (l : CounterLoop β υ τ) :
    motive l (cyclesUpTo bound l).1 (cyclesUpTo bound l).2 (cyclesSendsUpTo bound l) := by
  -- each round is the last one or leaves its loop to the rounds that are left
  induction bound generalizing l with
  | zero => exact still l
  | succ bound ih =>
    have hround := l.cycle_round
    unfold cyclesUpTo cyclesSendsUpTo
    rcases hc : l.cycle with ⟨_ | ending, l'⟩ <;> rw [hc] at hround
    · exact more _ _ _ _ _ _ hround (ih l')
    · rw [List.append_nil]
      exact last _ _ _ _ hround

theorem cycles_induction [FiniteTransport τ]
    {motive : CounterLoop β υ τ → Ending → CounterLoop β υ τ → Prop}
    (last : ∀ l ending l' sends, Round l (some ending) l' sends → motive l ending l')
    (more : ∀ l l' sends ending l'', Round l none l' sends → motive l' ending l'' →
      motive l ending l'')
    (l : CounterLoop β υ τ) : motive l l.cycles.1 l.cycles.2 := by
  -- each round that goes on uses up an answer
  induction hn : l.answersLeft using Nat.strongRecOn generalizing l with
  | ind n ih =>
    have hround := l.cycle_round
    rcases hc : l.cycle with ⟨_ | ending, l'⟩ <;> rw [hc] at hround
    · rw [cycles_of_none hc]
      exact more _ _ _ _ _ hround (ih _ (hn ▸ answersLeft_cycle_lt hc) l' rfl)
    · rw [cycles_of_some hc]
      exact last _ _ _ _ hround

section Start

variable {l : CounterLoop β υ τ} {storage : Storage β υ}

omit [StateRecorder υ] in
theorem startSends_of_none (h : l.session.storage.load = (.ok none, storage)) :
    l.startSends = [l.enrolling storage] := by
  simp only [startSends, h, Engine.enroll, askSends, Dialogue.sends]
  cases (l.session.bridge.request CounterEngine.enrollRequest).1 <;> rfl

theorem start_of_failure (h : l.session.storage.load = (.ok none, storage)) {e : BridgeError}
    (ha : (l.enrolling storage).outcome.result = .error e) :
    l.session.start l.engine =
      (.error (.engine (.bridge e)), (l.enrollSent storage).session, l.engine) := by
  have hans : (l.session.bridge.request CounterEngine.enrollRequest).1 = .error e := ha
  simp only [Session.start, h, Engine.enroll, Dialogue.run, hans]
  rfl

theorem start_of_answer (h : l.session.storage.load = (.ok none, storage)) {state : Bytes}
    (ha : (l.enrolling storage).outcome.result = .ok state) :
    l.session.start l.engine =
      (if (storage.persist state).1 then .ok true else .error .stateNotPersisted,
        (l.enrolled storage state).session, (l.enrolled storage state).engine) := by
  have hans : (l.session.bridge.request CounterEngine.enrollRequest).1 = .ok state := ha
  simp only [Session.start, h, Engine.enroll, Dialogue.run, hans, Session.apply,
    StateChange.state?]
  cases (storage.persist state).1 <;> rfl

end Start

def opened (l : CounterLoop β υ τ) : Option Ending × CounterLoop β υ τ :=
  match l.session.start l.engine with
  | (.error e, session, engine) =>
    let (ending, l) := { l with session, engine }.stop e
    (some ending, l)
  | (.ok enrolled, session, engine) =>
    (none, { l with session, engine, report.enrolled := enrolled })

theorem Opening.opened_eq {l l' : CounterLoop β υ τ} {result : Option Ending}
    {sends : List (Sending CounterEngine β υ τ)} (h : Opening l result l' sends) :
    l.opened = (result, l') ∧ l.startSends = sends := by
  unfold opened
  cases h with
  | unread h =>
    rw [Session.start, startSends, h]
    exact ⟨rfl, rfl⟩
  | restored h =>
    rw [Session.start, startSends, h]
    exact ⟨rfl, rfl⟩
  | enrollExit h ha =>
    rw [start_of_failure h ha, startSends_of_none h]
    exact ⟨rfl, rfl⟩
  | @enrollFailed storage e h ha he =>
    rw [start_of_failure h ha, startSends_of_none h]
    cases e with
    | exitRequested => exact absurd rfl he
    | transport _ | noResponse => exact ⟨rfl, rfl⟩
  | enrolled h ha hp | enrollLost h ha hp =>
    rw [start_of_answer h ha, startSends_of_none h, hp]
    exact ⟨rfl, rfl⟩

theorem exists_opening (l : CounterLoop β υ τ) : ∃ result l' sends, Opening l result l' sends := by
  rcases h : l.session.storage.load with ⟨e | _ | state, storage⟩
  · exact ⟨_, _, _, .unread h⟩
  · cases ha : (l.enrolling storage).outcome.result with
    | error e =>
      cases e with
      | exitRequested => exact ⟨_, _, _, .enrollExit h ha⟩
      | transport _ | noResponse => exact ⟨_, _, _, .enrollFailed h ha (by simp)⟩
    | ok state =>
      cases hp : (storage.persist state).1 with
      | true => exact ⟨_, _, _, .enrolled h ha hp⟩
      | false => exact ⟨_, _, _, .enrollLost h ha hp⟩
  · exact ⟨_, _, _, .restored h⟩

theorem opened_opening (l : CounterLoop β υ τ) : Opening l l.opened.1 l.opened.2 l.startSends := by
  obtain ⟨result, l', sends, h⟩ := l.exists_opening
  rw [h.opened_eq.1, h.opened_eq.2]
  exact h

theorem opened_of_start {l : CounterLoop β υ τ} {enrolled : Bool} {session : Session β υ τ}
    {engine : CounterEngine} (h : l.session.start l.engine = (.ok enrolled, session, engine)) :
    l.opened = (none, { l with session, engine, report.enrolled := enrolled }) := by
  unfold opened
  rw [h]

theorem runUpTo_eq (bound : Nat) (l : CounterLoop β υ τ) :
    runUpTo bound l = match l.opened with
      | (some ending, l) => (some ending, l)
      | (none, l) => cyclesUpTo bound l := by
  unfold runUpTo opened
  rcases l.session.start l.engine with ⟨e | enrolled, session, engine⟩ <;> rfl

theorem sendsUpTo_eq (bound : Nat) (l : CounterLoop β υ τ) :
    sendsUpTo bound l = l.startSends ++ match l.opened with
      | (some _, _) => []
      | (none, l) => cyclesSendsUpTo bound l := by
  unfold sendsUpTo opened
  rcases l.session.start l.engine with ⟨e | enrolled, session, engine⟩ <;> rfl

theorem run_eq [FiniteTransport τ] (l : CounterLoop β υ τ) :
    l.run = match l.opened with
      | (some ending, l) => (ending, l)
      | (none, l) => l.cycles := by
  unfold run opened
  rcases l.session.start l.engine with ⟨e | enrolled, session, engine⟩ <;> rfl

/-- A run ends at its start or goes on in rounds. -/
theorem run_cases {motive : Option Ending → CounterLoop β υ τ →
      List (Sending CounterEngine β υ τ) → Prop} (bound : Nat) (l : CounterLoop β υ τ)
    (ended : ∀ ending l' sends, Opening l (some ending) l' sends → motive (some ending) l' sends)
    (goes : ∀ l' sends, Opening l none l' sends →
      motive (cyclesUpTo bound l').1 (cyclesUpTo bound l').2
        (sends ++ cyclesSendsUpTo bound l')) :
    motive (runUpTo bound l).1 (runUpTo bound l).2 (sendsUpTo bound l) := by
  have hopen := l.opened_opening
  rw [runUpTo_eq, sendsUpTo_eq]
  rcases h : l.opened with ⟨_ | ending, l'⟩ <;> rw [h] at hopen
  · exact goes _ _ hopen
  · rw [List.append_nil]
    exact ended _ _ _ hopen

end CounterLoop

end SensorLink
