import SensorLink.CommandLoop

namespace SensorLink

/-- The requests lead a bridge from one state to the other, each sent on what the one before it
left. -/
def Bridge.Carries {τ : Type} [Transport τ] (b : Bridge τ) :
    List (Bridge τ × Bytes) → Bridge τ → Prop
  | [], b' => b' = b
  | (c, request) :: rest, b' => c = b ∧ Carries (b.request request).2 rest b'

namespace Bridge

variable {τ : Type} [Transport τ]

theorem Carries.append {b b' b'' : Bridge τ} {sends more : List (Bridge τ × Bytes)}
    (h : b.Carries sends b') (h' : b'.Carries more b'') : b.Carries (sends ++ more) b'' := by
  induction sends generalizing b with
  | nil =>
    cases h
    exact h'
  | cons q rest ih => exact ⟨h.1, ih h.2⟩

theorem Carries.exchanges {b b' : Bridge τ} {sends : List (Bridge τ × Bytes)}
    (h : b.Carries sends b') : b'.exchanges = b.exchanges + sends.length := by
  induction sends generalizing b with
  | nil =>
    cases h
    rfl
  | cons q rest ih =>
    rw [ih h.2, List.length_cons, request]
    simp only
    omega

end Bridge

/-- The questions of a dialogue, each with the bridge that it is put to. -/
def Dialogue.sends {α τ : Type} [Transport τ] : Dialogue α → Bridge τ → List (Bridge τ × Bytes)
  | .done _, _ => []
  | .ask request next, b =>
    (b, request) :: (next (b.request request).1).sends (b.request request).2

theorem Dialogue.carries {α τ : Type} [Transport τ] (d : Dialogue α) (b : Bridge τ) :
    b.Carries (d.sends b) (d.run b).2 := by
  induction d generalizing b with
  | done result => rfl
  | ask request next ih => exact ⟨rfl, ih _ _⟩

/-- A request at the moment when it is handed to the transport. -/
structure Sending (ε β υ τ : Type) where
  loop : CommandLoop ε β υ τ
  request : Bytes

namespace Sending

variable {ε β υ τ : Type}

def bridge (s : Sending ε β υ τ) : Bridge τ := s.loop.session.bridge

/-- What the transport does with the request. -/
def outcome [Transport τ] (s : Sending ε β υ τ) : SendOutcome :=
  (Transport.send s.bridge.transport s.request).1

end Sending

namespace CommandLoop

variable {ε β υ τ : Type} [Transport τ]

def askSends {α : Type} (l : CommandLoop ε β υ τ) (d : Dialogue α) : List (Sending ε β υ τ) :=
  (d.sends l.session.bridge).map fun q => ⟨{ l with session.bridge := q.1 }, q.2⟩

def confirmSends (l : CommandLoop ε β υ τ) : Option Bytes → List (Sending ε β υ τ)
  | none => []
  | some bytes => [⟨l, bytes⟩]

variable [Engine ε]

def pollSends (l : CommandLoop ε β υ τ) : List (Sending ε β υ τ) :=
  match Engine.pollRequest l.engine with
  | (.error _, _) => []
  | (.ok bytes, engine) => [⟨{ l with engine, state := .awaitingResponse }, bytes⟩]

variable [MountBackend β]

def startSends (l : CommandLoop ε β υ τ) : List (Sending ε β υ τ) :=
  match l.session.storage.load with
  | (.ok none, storage) =>
    { l with session := { l.session with storage } }.askSends (Engine.enroll l.engine)
  | _ => []

variable [StateRecorder υ]

def executeSends (l : CommandLoop ε β υ τ) (command : Command) (args : Bytes) :
    List (Sending ε β υ τ) :=
  l.askSends (Engine.execute l.engine command args) ++
    match (Engine.execute l.engine command args).run l.session.bridge with
    | ((.ok outcome, engine), bridge) =>
      match { l with engine, session.bridge := bridge }.apply outcome.change with
      | (.ok (), l) => l.confirmSends outcome.confirmation
      | (.error _, _) => []
    | _ => []

def processSends (l : CommandLoop ε β υ τ) (command : Command) (args : Bytes) :
    List (Sending ε β υ τ) :=
  match command with
  | .noCommand | .clearClientState => []
  | command => l.executeSends command args

def cycleSends (l : CommandLoop ε β υ τ) : List (Sending ε β υ τ) :=
  l.pollSends ++
    match l.poll with
    | (.ok response, l) =>
      let ((command, args), l) := l.decode response
      l.processSends command args
    | (.error _, _) => []

def cyclesSendsUpTo : Nat → CommandLoop ε β υ τ → List (Sending ε β υ τ)
  | 0, _ => []
  | bound + 1, l =>
    l.cycleSends ++
      match l.cycle with
      | (none, l) => cyclesSendsUpTo bound l
      | (some _, _) => []

/-- The sends of a run with at most `bound` rounds of polling, in order. -/
def sendsUpTo (bound : Nat) (l : CommandLoop ε β υ τ) : List (Sending ε β υ τ) :=
  l.startSends ++
    match l.session.start l.engine with
    | (.ok enrolled, session, engine) =>
      cyclesSendsUpTo bound { l with session, engine, report.enrolled := enrolled }
    | (.error _, _, _) => []

section Carries

omit [Engine ε] [MountBackend β] [StateRecorder υ]

/-- The sends lead from the bridge of one loop to that of the other. -/
def Carries (l : CommandLoop ε β υ τ) (sends : List (Sending ε β υ τ))
    (l' : CommandLoop ε β υ τ) : Prop :=
  l.session.bridge.Carries (sends.map fun s => (s.bridge, s.request)) l'.session.bridge

theorem Carries.append {l l' l'' : CommandLoop ε β υ τ} {sends more : List (Sending ε β υ τ)}
    (h : l.Carries sends l') (h' : l'.Carries more l'') : l.Carries (sends ++ more) l'' := by
  rw [Carries, List.map_append]
  exact Bridge.Carries.append h h'

theorem carries_ask {α : Type} (l : CommandLoop ε β υ τ) (d : Dialogue α) :
    l.Carries (l.askSends d) { l with session.bridge := (d.run l.session.bridge).2 } := by
  have h : (l.askSends d).map (fun s => (s.bridge, s.request)) = d.sends l.session.bridge := by
    simp [askSends, Sending.bridge, Function.comp_def]
  rw [Carries, h]
  exact d.carries _

theorem carries_confirm (l : CommandLoop ε β υ τ) (confirmation : Option Bytes) :
    l.Carries (l.confirmSends confirmation) (l.confirm confirmation).2 := by
  cases confirmation with
  | none => rfl
  | some bytes =>
    refine ⟨rfl, ?_⟩
    simp only [confirm, request, Session.request]
    cases (l.session.bridge.request bytes).1 <;> rfl

omit [Transport τ] in
theorem bridge_apply [MountBackend β] [StateRecorder υ] (l : CommandLoop ε β υ τ)
    (change : StateChange) : (l.apply change).2.session.bridge = l.session.bridge := by
  simp only [apply, Session.apply]
  split <;> rfl

omit [Transport τ] in
@[simp] theorem session_stop (l : CommandLoop ε β υ τ) (e : SensorError) :
    (l.stop e).2.session = l.session := by
  unfold stop
  split <;> rfl

end Carries

omit [MountBackend β] [StateRecorder υ] in
theorem carries_poll (l : CommandLoop ε β υ τ) : l.Carries l.pollSends l.poll.2 := by
  rcases hp : Engine.pollRequest l.engine with ⟨e | bytes, engine⟩
  · simp only [pollSends, poll, hp]
    rfl
  · simp only [pollSends, poll, hp, request, Session.request]
    refine ⟨rfl, ?_⟩
    cases (l.session.bridge.request bytes).1 <;> rfl

theorem carries_execute (l : CommandLoop ε β υ τ) (command : Command) (args : Bytes) :
    l.Carries (l.executeSends command args) (l.execute command args).2 := by
  have hask := l.carries_ask (Engine.execute l.engine command args)
  unfold executeSends execute
  rcases hrun : (Engine.execute l.engine command args).run l.session.bridge with
    ⟨⟨result, engine⟩, bridge⟩
  rw [hrun] at hask
  refine hask.append ?_
  cases result with
  | error e => cases e <;> rfl
  | ok outcome =>
    -- a persist leaves the bridge alone; after it only a confirmation is sent
    have happly := bridge_apply { l with engine, session.bridge := bridge } outcome.change
    simp only
    rcases ha : apply { l with engine, session.bridge := bridge } outcome.change with ⟨_ | ⟨⟩, l'⟩
    · rw [ha] at happly
      exact happly
    · rw [ha] at happly
      have hc := l'.carries_confirm outcome.confirmation
      rw [Carries, happly] at hc
      exact hc

theorem carries_process (l : CommandLoop ε β υ τ) (command : Command) (args : Bytes) :
    l.Carries (l.processSends command args) (l.process command args).2 := by
  cases command with
  | noCommand => rfl
  | clearClientState =>
    have happly := bridge_apply { l with engine := Engine.reset l.engine } .cleared
    simp only [processSends, process, clearState]
    rcases ha : apply { l with engine := Engine.reset l.engine } .cleared with ⟨_ | ⟨⟩, l'⟩ <;>
    · rw [ha] at happly
      exact happly
  | startSendingMessages | subscribeToAnnouncementLink | registerKeyloadMessage
  | printlnSubscriberStatus => exact l.carries_execute _ args

theorem carries_cycle (l : CommandLoop ε β υ τ) : l.Carries l.cycleSends l.cycle.2 := by
  have hpoll := l.carries_poll
  unfold cycleSends cycle
  rcases hp : l.poll with ⟨e | response, l₁⟩ <;> rw [hp] at hpoll
  · rw [List.append_nil]
    cases e with
    | bridge e => cases e <;> exact hpoll
    | persistence _ | engine _ | stateNotPersisted => exact hpoll
  · refine Carries.append hpoll ?_
    have hd : (l₁.decode response).2.session = l₁.session := by
      unfold decode
      split <;> rfl
    rcases hdec : l₁.decode response with ⟨⟨command, args⟩, l₂⟩
    rw [hdec] at hd
    have hproc := l₂.carries_process command args
    rw [Carries, hd] at hproc
    rcases hres : l₂.process command args with ⟨e | ⟨⟩, l₃⟩ <;> rw [hres] at hproc
    · simp only [hdec, hres, Carries, session_stop]
      exact hproc
    · simp only [hdec, hres]
      exact hproc

theorem carries_cyclesUpTo (bound : Nat) (l : CommandLoop ε β υ τ) :
    l.Carries (cyclesSendsUpTo bound l) (cyclesUpTo bound l).2 := by
  induction bound generalizing l with
  | zero => rfl
  | succ bound ih =>
    have hcycle := l.carries_cycle
    unfold cyclesSendsUpTo cyclesUpTo
    rcases hc : l.cycle with ⟨_ | ending, l'⟩ <;> rw [hc] at hcycle
    · exact Carries.append hcycle (ih l')
    · rw [List.append_nil]
      exact hcycle

theorem carries_start (l : CommandLoop ε β υ τ) :
    l.session.bridge.Carries (l.startSends.map fun s => (s.bridge, s.request))
      (l.session.start l.engine).2.1.bridge := by
  unfold startSends Session.start
  rcases l.session.storage.load with ⟨e | _ | state, storage⟩
  · rfl
  · have hask := carries_ask { l with session := { l.session with storage } } (Engine.enroll l.engine)
    rcases hrun : (Engine.enroll l.engine).run l.session.bridge with ⟨⟨e | state, engine⟩, bridge⟩
    · simp only [Carries, hrun] at hask
      exact hask
    · simp only [Carries, hrun] at hask
      simp only [Session.apply]
      exact hask
  · rfl

/-- The sends of a run, one on what the other left, are all that happens to its bridge. -/
theorem carries_runUpTo (bound : Nat) (l : CommandLoop ε β υ τ) :
    l.Carries (sendsUpTo bound l) (runUpTo bound l).2 := by
  have hstart := l.carries_start
  unfold sendsUpTo runUpTo
  rcases hs : l.session.start l.engine with ⟨e | enrolled, session, engine⟩ <;> rw [hs] at hstart
  · simp only [List.append_nil, Carries, session_stop]
    exact hstart
  · rw [Carries, List.map_append]
    exact hstart.append
      (carries_cyclesUpTo bound { l with session, engine, report.enrolled := enrolled })

section Termination

variable [FiniteTransport τ]

theorem cycles_of_some {l l' : CommandLoop ε β υ τ} {ending : Ending}
    (h : l.cycle = (some ending, l')) : l.cycles = (ending, l') := by
  rw [cycles]
  split <;> simp_all

theorem cycles_of_none {l l' : CommandLoop ε β υ τ} (h : l.cycle = (none, l')) :
    l.cycles = l'.cycles := by
  rw [cycles]
  split <;> simp_all

theorem cycles_of_cyclesUpTo {bound : Nat} {l l' : CommandLoop ε β υ τ} {ending : Ending}
    (h : cyclesUpTo bound l = (some ending, l')) : l.cycles = (ending, l') := by
  induction bound generalizing l with
  | zero => cases h
  | succ bound ih =>
    unfold cyclesUpTo at h
    rcases hc : l.cycle with ⟨_ | ending', l₁⟩ <;> rw [hc] at h
    · rw [cycles_of_none hc, ih h]
    · obtain ⟨he, rfl⟩ := Prod.mk.inj h
      rw [cycles_of_some hc, Option.some.inj he]

theorem run_of_runUpTo {bound : Nat} {l l' : CommandLoop ε β υ τ} {ending : Ending}
    (h : runUpTo bound l = (some ending, l')) : l.run = (ending, l') := by
  unfold runUpTo at h
  unfold run
  rcases hs : l.session.start l.engine with ⟨e | enrolled, session, engine⟩ <;> rw [hs] at h
  · obtain ⟨he, hl⟩ := Prod.mk.inj h
    exact Prod.ext (Option.some.inj he) hl
  · exact cycles_of_cyclesUpTo h

theorem cyclesUpTo_eq_cycles {bound : Nat} {l : CommandLoop ε β υ τ} (h : l.answersLeft < bound) :
    cyclesUpTo bound l = (some l.cycles.1, l.cycles.2) := by
  induction bound generalizing l with
  | zero => omega
  | succ bound ih =>
    rcases hc : l.cycle with ⟨_ | ending, l'⟩
    · have hlt := answersLeft_cycle_lt hc
      rw [cycles_of_none hc]
      simp only [cyclesUpTo, hc]
      exact ih (by omega)
    · rw [cycles_of_some hc]
      simp only [cyclesUpTo, hc]

/-- A bound that the transport cannot answer cuts nothing off. -/
theorem exists_runUpTo_eq_run (l : CommandLoop ε β υ τ) :
    ∃ bound, runUpTo bound l = (some l.run.1, l.run.2) := by
  rcases hs : l.session.start l.engine with ⟨e | enrolled, session, engine⟩
  · refine ⟨0, ?_⟩
    simp only [runUpTo, run, hs]
  · refine ⟨answersLeft { l with session, engine, report.enrolled := enrolled } + 1, ?_⟩
    simp only [runUpTo, run, hs]
    exact cyclesUpTo_eq_cycles (Nat.lt_succ_self _)

end Termination

end CommandLoop

end SensorLink
