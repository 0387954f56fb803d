import SensorLink.Proofs.Loop.Restart

namespace SensorLink

namespace LoopReport

/-- Counts on top of earlier ones; the enrollment is taken from the later ones. -/
def add (past own : LoopReport) : LoopReport :=
  ⟨own.enrolled, past.polls + own.polls, past.executed + own.executed, past.failed + own.failed⟩

/-- What is reported after a run that counts `own`; one that fails at its start leaves it as it was
whether the device was enrolled. -/
def carry (past : LoopReport) (started : Bool) (own : LoopReport) : LoopReport :=
  { past.add own with enrolled := if started then own.enrolled else past.enrolled }

theorem carry_inj {past own own' : LoopReport} {started : Bool}
    (h : past.carry started own = past.carry started own')
    (henrolled : started = false → own.enrolled = own'.enrolled) : own = own' := by
  simp only [carry, add, mk.injEq, Nat.add_left_cancel_iff] at h
  obtain ⟨he, hpolls, hexecuted, hfailed⟩ := h
  have hsame : own.enrolled = own'.enrolled := by
    cases started with
    | true => exact he
    | false => exact henrolled rfl
  cases own
  cases own'
  rw [mk.injEq]
  exact ⟨hsame, hpolls, hexecuted, hfailed⟩

theorem carry_eq_self {past own : LoopReport} {started : Bool}
    (henrolled : started = false → own.enrolled = false) :
    past.carry started own = own ↔
      (past.polls = 0 ∧ past.executed = 0 ∧ past.failed = 0) ∧
        (started = true ∨ past.enrolled = false) := by
  obtain ⟨enrolled, polls, executed, failed⟩ := own
  cases started with
  | true => simp [carry, add]
  | false =>
    have hnot : enrolled = false := henrolled rfl
    simp [carry, add, hnot, and_comm]

end LoopReport

namespace CommandLoop

variable {ε β υ τ : Type}

def renewed (l : CommandLoop ε β υ τ) : CommandLoop ε β υ τ :=
  { session := l.session, engine := l.engine, options := l.options }

/-- The loop if it had a past: what it has counted comes on top of what was counted then, and a state
that it has not left yet is the one from then. -/
def since (past : LoopReport) (state : LoopState) (l : CommandLoop ε β υ τ) : CommandLoop ε β υ τ :=
  { l with
    report := past.add l.report
    state := if l.state = .unstarted then state else l.state }

section Since

variable (past : LoopReport) (state : LoopState) (l : CommandLoop ε β υ τ)

@[simp] theorem session_since : (l.since past state).session = l.session := rfl

@[simp] theorem engine_since : (l.since past state).engine = l.engine := rfl

theorem stop_since (e : SensorError) :
    (l.since past state).stop e = ((l.stop e).1.map past.add, (l.stop e).2.since past state) := by
  unfold stop
  split <;> rfl

theorem decode_since [Engine ε] (response : Bytes) :
    (l.since past state).decode response =
      ((l.decode response).1, (l.decode response).2.since past state) := by
  rcases h : Engine.decodeCommand l.engine response with ⟨_ | _, engine⟩ <;>
  · simp only [decode, engine_since, h]
    rfl

theorem apply_since [MountBackend β] [StateRecorder υ] (change : StateChange) :
    (l.since past state).apply change =
      ((l.apply change).1, (l.apply change).2.since past state) := rfl

variable [Transport τ]

theorem confirm_since (confirmation : Option Bytes) :
    (l.since past state).confirm confirmation =
      ((l.confirm confirmation).1, (l.confirm confirmation).2.since past state) := by
  cases confirmation with
  | none => rfl
  | some bytes =>
    rcases h : l.session.request bytes with ⟨_ | _, session⟩ <;>
    · simp only [confirm, request, session_since, h]
      rfl

variable [Engine ε]

theorem poll_since :
    (l.since past state).poll = (l.poll.1, l.poll.2.since past state) := by
  rcases hp : Engine.pollRequest l.engine with ⟨_ | bytes, engine⟩
  · simp only [poll, engine_since, hp]
    rfl
  -- the loop has left its first state
  · rcases h : l.session.request bytes with ⟨_ | _, session⟩ <;>
    · simp only [poll, engine_since, hp, request, session_since, h]
      rfl

variable [MountBackend β] [StateRecorder υ]

theorem execute_since (command : Command) (args : Bytes) :
    (l.since past state).execute command args =
      ((l.execute command args).1, (l.execute command args).2.since past state) := by
  rcases h : (Engine.execute l.engine command args).run l.session.bridge with
    ⟨⟨e | outcome, engine⟩, bridge⟩
  · simp only [execute, engine_since, session_since, h]
    cases e <;> rfl
  · let l₁ : CommandLoop ε β υ τ := { l with engine, session.bridge := bridge }
    have happly : apply { l.since past state with engine, session.bridge := bridge } outcome.change =
        ((l₁.apply outcome.change).1, (l₁.apply outcome.change).2.since past state) :=
      l₁.apply_since past state outcome.change
    simp only [execute, engine_since, session_since, h] at happly ⊢
    rw [happly]
    rcases l₁.apply outcome.change with ⟨_ | ⟨⟩, l₂⟩
    · rfl
    · exact l₂.confirm_since past state outcome.confirmation

theorem process_since (command : Command) (args : Bytes) :
    (l.since past state).process command args =
      ((l.process command args).1, (l.process command args).2.since past state) := by
  cases command with
  | noCommand => rfl
  | clearClientState =>
    let l₁ : CommandLoop ε β υ τ := { l with engine := Engine.reset l.engine }
    have happly : apply { l.since past state with engine := Engine.reset l.engine } .cleared =
        ((l₁.apply .cleared).1, (l₁.apply .cleared).2.since past state) :=
      l₁.apply_since past state .cleared
    simp only [process, clearState, engine_since, happly]
    rcases l₁.apply .cleared with ⟨_ | ⟨⟩, l₂⟩ <;> rfl
  | startSendingMessages | subscribeToAnnouncementLink | registerKeyloadMessage
  | printlnSubscriberStatus => exact l.execute_since past state _ args

theorem cycle_since :
    (l.since past state).cycle =
      (l.cycle.1.map (·.map past.add), l.cycle.2.since past state) := by
  unfold cycle
  rw [poll_since]
  rcases l.poll with ⟨e | response, l₁⟩
  · cases e with
    | bridge e => cases e <;> rfl
    | persistence _ | engine _ | stateNotPersisted => rfl
  · simp only [decode_since, process_since]
    rcases (l₁.decode response).2.process (l₁.decode response).1.1 (l₁.decode response).1.2 with
      ⟨e | ⟨⟩, l₂⟩
    · simp only [stop_since]
      rfl
    · rfl

theorem cyclesUpTo_since (bound : Nat) :
    cyclesUpTo bound (l.since past state) =
      ((cyclesUpTo bound l).1.map (·.map past.add), (cyclesUpTo bound l).2.since past state) := by
  induction bound generalizing l with
  | zero => rfl
  | succ bound ih =>
    unfold cyclesUpTo
    rw [cycle_since]
    rcases l.cycle with ⟨_ | ending, l'⟩
    · exact ih l'
    · rfl

end Since

end CommandLoop

/-- A command at the moment when the loop comes to it. -/
structure Handling (ε β υ τ : Type) where
  loop : CommandLoop ε β υ τ
  command : Command
  args : Bytes

namespace Handling

variable {ε β υ τ : Type} [Engine ε] [MountBackend β] [StateRecorder υ] [Transport τ]

def refused (h : Handling ε β υ τ) : Bool :=
  match ((Engine.execute h.loop.engine h.command h.args).run h.loop.session.bridge).1.1 with
  | .error (.bridge _) | .ok _ => false
  | .error _ => true

/-- Whether the engine executes the command, the new state is persisted, and the confirmation, if there
is one, is answered. -/
def carriedOut (h : Handling ε β υ τ) : Bool :=
  match (Engine.execute h.loop.engine h.command h.args).run h.loop.session.bridge with
  | ((.ok outcome, _), bridge) =>
    match { h.loop.session with bridge }.apply outcome.change with
    | (.ok (), session) => outcome.confirmation.all fun bytes => (session.request bytes).1.isOk
    | (.error _, _) => false
  | ((.error _, _), _) => false

def fails (h : Handling ε β υ τ) : Bool :=
  match h.command with
  | .noCommand | .clearClientState => false
  | _ => h.refused

/-- Whether the command is executed to the end. The engine has no part in a clear, and there is nothing
to execute where there is no command. -/
def completes (h : Handling ε β υ τ) : Bool :=
  match h.command with
  | .noCommand => false
  | .clearClientState => (h.loop.session.apply .cleared).1.isOk
  | _ => h.carriedOut

end Handling

/-- The counts after one answered poll for each command. -/
def LoopReport.count {ε β υ τ : Type} [Engine ε] [MountBackend β] [StateRecorder υ] [Transport τ]
    (r : LoopReport) (handled : List (Handling ε β υ τ)) : LoopReport :=
  { r with
    polls := r.polls + handled.length
    executed := r.executed + handled.countP Handling.completes
    failed := r.failed + handled.countP Handling.fails }

theorem LoopReport.count_append {ε β υ τ : Type} [Engine ε] [MountBackend β] [StateRecorder υ]
    [Transport τ] (r : LoopReport) (handled more : List (Handling ε β υ τ)) :
    r.count (handled ++ more) = (r.count handled).count more := by
  simp [count, Nat.add_assoc]

namespace CommandLoop

variable {ε β υ τ : Type} [Engine ε] [MountBackend β] [StateRecorder υ] [Transport τ]

def cycleHandled (l : CommandLoop ε β υ τ) : List (Handling ε β υ τ) :=
  match l.poll with
  | (.ok response, l) =>
    let ((command, args), l) := l.decode response
    [⟨l, command, args⟩]
  | (.error _, _) => []

def cyclesHandledUpTo : Nat → CommandLoop ε β υ τ → List (Handling ε β υ τ)
  | 0, _ => []
  | bound + 1, l =>
    l.cycleHandled ++
      match l.cycle with
      | (none, l) => cyclesHandledUpTo bound l
      | (some _, _) => []

/-- The commands that answered polls of a run have brought, in order; a response that cannot be decoded
brings none, and is listed as that. -/
def handledUpTo (bound : Nat) (l : CommandLoop ε β υ τ) : List (Handling ε β υ τ) :=
  match l.session.start l.engine with
  | (.ok enrolled, session, engine) =>
    cyclesHandledUpTo bound { l with session, engine, report.enrolled := enrolled }
  | (.error _, _, _) => []

/-- What a part of a run adds to the report, and what it returns of it. -/
structure Counted (l : CommandLoop ε β υ τ) (result : Option Ending) (l' : CommandLoop ε β υ τ)
    (handled : List (Handling ε β υ τ)) : Prop where
  counts : l'.report = l.report.count handled
  reported : ∀ report, result = some (.ok report) → report = l'.report

theorem Counted.append {l l' l'' : CommandLoop ε β υ τ} {result : Option Ending}
    {handled more : List (Handling ε β υ τ)} (h : Counted l none l' handled)
    (h' : Counted l' result l'' more) : Counted l result l'' (handled ++ more) where
  counts := by rw [h'.counts, h.counts, LoopReport.count_append]
  reported := h'.reported

section Reports

variable (l : CommandLoop ε β υ τ)

theorem counted_stop (e : SensorError) : Counted l (some (l.stop e).1) (l.stop e).2 [] := by
  unfold stop
  split
  · refine ⟨rfl, ?_⟩
    rintro report ⟨rfl⟩
    rfl
  · refine ⟨rfl, ?_⟩
    rintro report ⟨⟩

omit [MountBackend β] [StateRecorder υ] [Transport τ] in
theorem report_decode (response : Bytes) :
    (l.decode response).2.report = l.report := by
  unfold decode
  split <;> rfl

omit [Engine ε] [MountBackend β] [StateRecorder υ] in
theorem report_confirm (confirmation : Option Bytes) :
    (l.confirm confirmation).2.report =
      { l.report with
        executed := l.report.executed +
          if confirmation.all fun bytes => (l.session.request bytes).1.isOk then 1 else 0 } := by
  cases confirmation with
  | none => rfl
  | some bytes =>
    rcases h : l.session.request bytes with ⟨_ | _, session⟩ <;>
    · simp only [confirm, request, Option.all_some, h]
      rfl

theorem report_execute (command : Command) (args : Bytes) :
    (l.execute command args).2.report =
      { l.report with
        executed := l.report.executed + if (Handling.mk l command args).carriedOut then 1 else 0
        failed := l.report.failed + if (Handling.mk l command args).refused then 1 else 0 } := by
  rcases h : (Engine.execute l.engine command args).run l.session.bridge with
    ⟨⟨e | outcome, engine⟩, bridge⟩
  · simp only [execute, Handling.carriedOut, Handling.refused, h]
    cases e <;> rfl
  · simp only [execute, Handling.carriedOut, Handling.refused, h]
    rcases ha : { l.session with bridge }.apply outcome.change with ⟨_ | ⟨⟩, session⟩
    · simp only [apply, ha]
      rfl
    · simp only [apply, ha, report_confirm]
      rfl

theorem report_process (command : Command) (args : Bytes) :
    (l.process command args).2.report =
      { l.report with
        executed := l.report.executed + if (Handling.mk l command args).completes then 1 else 0
        failed := l.report.failed + if (Handling.mk l command args).fails then 1 else 0 } := by
  cases command with
  | noCommand => rfl
  | clearClientState =>
    rcases ha : l.session.apply .cleared with ⟨_ | ⟨⟩, session⟩ <;>
    · simp only [process, clearState, apply, Handling.completes, Handling.fails, ha]
      rfl
  | startSendingMessages | subscribeToAnnouncementLink | registerKeyloadMessage
  | printlnSubscriberStatus => exact l.report_execute _ args

omit [MountBackend β] [StateRecorder υ] in
theorem report_poll :
    l.poll.2.report =
      { l.report with polls := l.report.polls + if l.poll.1.isOk then 1 else 0 } := by
  rcases hp : Engine.pollRequest l.engine with ⟨_ | bytes, engine⟩
  · simp only [poll, hp]
    rfl
  · rcases h : l.session.request bytes with ⟨_ | _, session⟩ <;>
    · simp only [poll, hp, request, h]
      rfl

theorem counted_cycle : Counted l l.cycle.1 l.cycle.2 l.cycleHandled := by
  have hpoll := l.report_poll
  unfold cycle cycleHandled
  rcases hp : l.poll with ⟨e | response, l₁⟩ <;> rw [hp] at hpoll
  · have hsame : l₁.report = l.report := hpoll
    have hexit : Counted l (some l₁.exit.1) l₁.exit.2 [] := by
      refine ⟨hsame, ?_⟩
      rintro report ⟨rfl⟩
      rfl
    have hfailed {e : SensorError} : Counted l (some (.error e)) l₁ [] := by
      refine ⟨hsame, ?_⟩
      rintro report ⟨⟩
    cases e with
    | bridge e =>
      cases e with
      | exitRequested => exact hexit
      | transport _ | noResponse => exact hfailed
    | persistence _ | engine _ | stateNotPersisted => exact hfailed
  -- an answered poll is counted once, by what its command came to
  · have hdecode := l₁.report_decode response
    rcases hd : l₁.decode response with ⟨⟨command, args⟩, l₂⟩
    rw [hd, hpoll] at hdecode
    have hprocess := l₂.report_process command args
    rw [hdecode] at hprocess
    have hcounts : (l₂.process command args).2.report =
        l.report.count [Handling.mk l₂ command args] := by
      rw [hprocess, LoopReport.count, List.countP_singleton, List.countP_singleton]
      rfl
    rcases hproc : l₂.process command args with ⟨e | ⟨⟩, l₃⟩ <;> rw [hproc] at hcounts <;>
      simp only [hd, hproc]
    · have hstop := l₃.counted_stop e
      exact ⟨hstop.counts.trans hcounts, hstop.reported⟩
    · refine ⟨hcounts, ?_⟩
      rintro report ⟨⟩

theorem counted_cyclesUpTo (bound : Nat) :
    Counted l (cyclesUpTo bound l).1 (cyclesUpTo bound l).2 (cyclesHandledUpTo bound l) := by
  induction bound generalizing l with
  | zero =>
    refine ⟨rfl, ?_⟩
    rintro report ⟨⟩
  | succ bound ih =>
    have hcycle := l.counted_cycle
    unfold cyclesUpTo cyclesHandledUpTo
    rcases hc : l.cycle with ⟨_ | ending, l'⟩ <;> rw [hc] at hcycle
    · exact hcycle.append (ih l')
    · rw [List.append_nil]
      exact hcycle

end Reports

end CommandLoop

/-- A call of `run` on a loop, for that many rounds of polling at most. -/
structure RunCall (ε β υ τ : Type) where
  loop : CommandLoop ε β υ τ
  bound : Nat

namespace RunCall

variable {ε β υ τ : Type} [Engine ε] [MountBackend β] [StateRecorder υ] [Transport τ]
  (c : RunCall ε β υ τ)

def result : Option CommandLoop.Ending := (CommandLoop.runUpTo c.bound c.loop).1

def after : CommandLoop ε β υ τ := (CommandLoop.runUpTo c.bound c.loop).2

/-- The same call on a new loop over the session and the engine. -/
def renewed : RunCall ε β υ τ := ⟨c.loop.renewed, c.bound⟩

def handled : List (Handling ε β υ τ) := CommandLoop.handledUpTo c.bound c.loop

def started : Bool := (c.loop.session.start c.loop.engine).1.isOk

/-- Whether the call completes an enrollment: there is no state, the engine enrolls, and the state that
it gets is persisted. -/
def enrolls : Bool :=
  match c.loop.session.storage.load with
  | (.ok none, storage) =>
    match ((Engine.enroll c.loop.engine).run c.loop.session.bridge).1.1 with
    | .ok state => (storage.persist state).1
    | .error _ => false
  | (.ok (some _), _) | (.error _, _) => false

/-- What happens in the call itself. -/
def own : LoopReport := LoopReport.count { enrolled := c.enrolls } c.handled

theorem start_cases :
    (∃ session engine, c.loop.session.start c.loop.engine = (.ok c.enrolls, session, engine)) ∧
        c.started = true ∨
      (∃ e session engine, c.loop.session.start c.loop.engine = (.error e, session, engine)) ∧
        c.started = false ∧ c.enrolls = false := by
  unfold started enrolls Session.start
  rcases c.loop.session.storage.load with ⟨e | _ | state, storage⟩
  · exact Or.inr ⟨⟨_, _, _, rfl⟩, rfl, rfl⟩
  · simp only
    rcases (Engine.enroll c.loop.engine).run c.loop.session.bridge with ⟨⟨e | state, engine⟩, bridge⟩
    · exact Or.inr ⟨⟨_, _, _, rfl⟩, rfl, rfl⟩
    · simp only [Session.apply, StateChange.state?]
      cases (storage.persist state).1 with
      | true => exact Or.inl ⟨⟨_, _, rfl⟩, rfl⟩
      | false => exact Or.inr ⟨⟨_, _, _, rfl⟩, rfl, rfl⟩
  · simp only
    rcases Engine.restore c.loop.engine state with ⟨e | ⟨⟩, engine⟩
    · exact Or.inr ⟨⟨_, _, _, rfl⟩, rfl, trivial⟩
    · exact Or.inl ⟨⟨_, _, rfl⟩, rfl⟩

theorem enrolls_of_not_started (h : c.started = false) : c.enrolls = false := by
  rcases c.start_cases with ⟨-, hstarted⟩ | ⟨-, -, henrolls⟩
  · rw [hstarted] at h
    cases h
  · exact henrolls

/-- After a call the report holds what happened in it on top of what it held before. -/
theorem report_after : c.after.report = c.loop.report.carry c.started c.own ∧
    ∀ report, c.result = some (.ok report) → report = c.after.report := by
  unfold result after own handled CommandLoop.runUpTo CommandLoop.handledUpTo
  rcases c.start_cases with ⟨⟨session, engine, h⟩, hstarted⟩ | ⟨⟨e, session, engine, h⟩, hstarted, -⟩
  · have hcounted := CommandLoop.counted_cyclesUpTo
      { c.loop with session, engine, report.enrolled := c.enrolls } c.bound
    rw [h, hstarted]
    refine ⟨hcounted.counts.trans ?_, hcounted.reported⟩
    simp [LoopReport.carry, LoopReport.add, LoopReport.count]
  · have hcounted := CommandLoop.counted_stop { c.loop with session, engine } e
    rw [h, hstarted]
    refine ⟨hcounted.counts.trans ?_, hcounted.reported⟩
    simp [LoopReport.carry, LoopReport.add, LoopReport.count]

/-- A call does what the same call on a new loop would do, and reports what that would report on top of
what the loop held before. -/
theorem renewed_agrees :
    c.result = c.renewed.result.map (·.map (c.loop.report.carry c.started)) ∧
      c.after.session = c.renewed.after.session ∧ c.after.engine = c.renewed.after.engine := by
  have hsame : c.loop.renewed.session.start c.loop.renewed.engine =
    c.loop.session.start c.loop.engine := rfl
  unfold result after renewed CommandLoop.runUpTo
  rw [hsame]
  rcases c.start_cases with ⟨⟨session, engine, h⟩, hstarted⟩ | ⟨⟨e, session, engine, h⟩, hstarted, -⟩
  · -- past its start the loop is a new one with a past
    have hsince : CommandLoop.cyclesUpTo c.bound
        { c.loop with session, engine, report.enrolled := c.enrolls } = _ :=
      CommandLoop.cyclesUpTo_since c.loop.report c.loop.state
        { c.loop.renewed with session, engine, report.enrolled := c.enrolls } c.bound
    rw [h, hstarted]
    simp only [hsince]
    exact ⟨rfl, rfl, rfl⟩
  · rw [h, hstarted]
    simp only [CommandLoop.stop]
    by_cases hexit : e.isExit = true
    · rw [if_pos hexit, if_pos hexit]
      exact ⟨rfl, rfl, rfl⟩
    · rw [if_neg hexit, if_neg hexit]
      exact ⟨rfl, rfl, rfl⟩

theorem own_of_renewed {report : LoopReport} (h : c.renewed.result = some (.ok report)) :
    report = c.own := by
  have hresult : c.result = some (.ok (c.loop.report.carry c.started report)) := by
    rw [c.renewed_agrees.1, h]
    rfl
  obtain ⟨hafter, hreported⟩ := c.report_after
  refine LoopReport.carry_inj ((hreported _ hresult).trans hafter) ?_
  intro hstarted
  have hfresh : report = LoopReport.carry {} c.started c.renewed.own :=
    (c.renewed.report_after.2 _ h).trans c.renewed.report_after.1
  rw [hfresh, hstarted]
  exact (c.enrolls_of_not_started hstarted).symm

/-- All that happens in a number of calls, and whether the last of them that got past its start has
enrolled the device. -/
def tally (calls : List (RunCall ε β υ τ)) : LoopReport :=
  LoopReport.count { enrolled := (calls.filter started).getLast?.any enrolls } (calls.flatMap handled)

theorem tally_append (calls : List (RunCall ε β υ τ)) :
    tally (calls ++ [c]) = (tally calls).carry c.started c.own := by
  have henrolled : ((calls ++ [c]).filter started).getLast?.any enrolls =
      if c.started then c.enrolls else (calls.filter started).getLast?.any enrolls := by
    cases h : c.started <;> simp [h]
  rw [tally, henrolled]
  simp [tally, own, LoopReport.carry, LoopReport.add, LoopReport.count]

theorem counts_eq_zero {calls : List (RunCall ε β υ τ)} :
    (tally calls).polls = 0 ∧ (tally calls).executed = 0 ∧ (tally calls).failed = 0 ↔
      ∀ c ∈ calls, c.handled = [] := by
  simp only [tally, LoopReport.count, Nat.zero_add, List.length_eq_zero_iff]
  rw [← List.flatMap_eq_nil_iff]
  constructor
  · exact And.left
  · intro h
    rw [h]
    exact ⟨rfl, rfl, rfl⟩

end RunCall

/-- A loop with the calls of `run` that it has behind it. Between them its session may be worked on. -/
inductive Called {ε β υ τ : Type} [Engine ε] [MountBackend β] [StateRecorder υ] [Transport τ] :
    List (RunCall ε β υ τ) → CommandLoop ε β υ τ → Prop where
  | new (session : Session β υ τ) (engine : ε) (options : LoopOptions) :
      Called [] { session, engine, options }
  | work {calls : List (RunCall ε β υ τ)} {l : CommandLoop ε β υ τ} (h : Called calls l)
      (session : Session β υ τ) : Called calls { l with session }
  | run {calls : List (RunCall ε β υ τ)} {l : CommandLoop ε β υ τ} (h : Called calls l)
      (bound : Nat) (hend : (RunCall.mk l bound).result.isSome) :
      Called (calls ++ [⟨l, bound⟩]) (RunCall.mk l bound).after

section Called

variable {ε β υ τ : Type} [Engine ε] [MountBackend β] [StateRecorder υ] [Transport τ]
  {calls : List (RunCall ε β υ τ)} {l : CommandLoop ε β υ τ}

theorem Called.report_eq (h : Called calls l) : l.report = RunCall.tally calls := by
  induction h with
  | new session engine options => rfl
  | work h session ih => exact ih
  | @run calls l h bound hend ih =>
    rw [(RunCall.mk l bound).report_after.1, RunCall.tally_append, ← ih]

/-- The report of a call holds everything since the loop was made, whatever the calls before it came to.
A new loop over the same session and engine would do the same and report what happens in the call
alone. So the report is that of the call exactly if no call before it had a poll answered, and it got
past its start itself, or the last call before it that did has not enrolled the device. -/
theorem report_of_calls (h : Called calls l) (bound : Nat) {report : LoopReport}
    (hrun : (RunCall.mk l bound).result = some (.ok report)) :
    let call : RunCall ε β υ τ := ⟨l, bound⟩
    ∃ own, call.renewed.result = some (.ok own) ∧
      call.renewed.after.session = call.after.session ∧
      call.renewed.after.engine = call.after.engine ∧
      own = call.own ∧
      report = RunCall.tally (calls ++ [call]) ∧
      (report = own ↔ (∀ c ∈ calls, c.handled = []) ∧
        (call.started = true ∨ (RunCall.tally calls).enrolled = false)) := by
  intro call
  obtain ⟨hresult, hsession, hengine⟩ := call.renewed_agrees
  obtain ⟨hafter, hreported⟩ := call.report_after
  have hreport : report = (RunCall.tally calls).carry call.started call.own := by
    rw [← h.report_eq]
    exact (hreported _ hrun).trans hafter
  obtain ⟨own, hown⟩ : ∃ own, call.renewed.result = some (.ok own) := by
    rw [show call.result = _ from hrun] at hresult
    rcases hr : call.renewed.result with _ | _ | own <;> rw [hr] at hresult
    · cases hresult
    · cases hresult
    · exact ⟨own, rfl⟩
  obtain rfl := call.own_of_renewed hown
  refine ⟨call.own, hown, hsession.symm, hengine.symm, rfl, ?_, ?_⟩
  · rw [hreport, RunCall.tally_append]
  · rw [hreport, LoopReport.carry_eq_self call.enrolls_of_not_started]
    exact and_congr_left fun _ => RunCall.counts_eq_zero

end Called

section Reused

open CounterLoop

def reused : Scripted DirectoryBackend NotingRecorder :=
  fresh ⟨1⟩ (Storage.make dataDirectory dataFiles).prepare.2 [] {} [.respond [65], .respond [5]]

def reusedFirst : RunCall CounterEngine DirectoryBackend NotingRecorder ScriptedTransport := ⟨reused, 2⟩

def reusedSecond : RunCall CounterEngine DirectoryBackend NotingRecorder ScriptedTransport :=
  ⟨reusedFirst.after, 0⟩

theorem eq_some_ok {result : Option CommandLoop.Ending} {report : LoopReport}
    (h : result.bind Except.toOption = some report) : result = some (.ok report) := by
  rcases result with _ | _ | report'
  · cases h
  · cases h
  · rw [Option.some.inj h]

theorem called_reused : Called [reusedFirst] reusedSecond.loop :=
  .run (.new _ _ _) 2 (by decide +kernel)

theorem result_reusedSecond : reusedSecond.result = some (.ok ⟨true, 1, 1, 0⟩) :=
  eq_some_ok (by decide +kernel)

theorem report_of_calls_reused :
    Called [reusedFirst] reusedSecond.loop ∧
    reusedSecond.result = some (.ok ⟨true, 1, 1, 0⟩) ∧
    ∃ own, reusedSecond.renewed.result = some (.ok own) ∧
      reusedSecond.renewed.after.session = reusedSecond.after.session ∧
      reusedSecond.renewed.after.engine = reusedSecond.after.engine ∧
      own = reusedSecond.own ∧
      ⟨true, 1, 1, 0⟩ = RunCall.tally ([reusedFirst] ++ [reusedSecond]) ∧
      (⟨true, 1, 1, 0⟩ = own ↔ (∀ c ∈ [reusedFirst], c.handled = []) ∧
        (reusedSecond.started = true ∨ (RunCall.tally [reusedFirst]).enrolled = false)) :=
  ⟨called_reused, result_reusedSecond, report_of_calls called_reused 0 result_reusedSecond⟩

/-- The second run of a loop is told to stop during its own enrollment and still reports the first
one, where a new loop reports nothing. -/
theorem report_of_second_run :
    Called [reusedFirst] reusedSecond.loop ∧
    reusedFirst.result = some (.ok ⟨true, 1, 1, 0⟩) ∧
    reusedSecond.result = some (.ok ⟨true, 1, 1, 0⟩) ∧
    reusedSecond.enrolls = false ∧ reusedSecond.own = ⟨false, 0, 0, 0⟩ ∧
    reusedSecond.renewed.result = some (.ok ⟨false, 0, 0, 0⟩) := by
  refine ⟨called_reused, eq_some_ok ?_, result_reusedSecond, ?_, ?_, eq_some_ok ?_⟩ <;>
    decide +kernel

end Reused

end SensorLink
