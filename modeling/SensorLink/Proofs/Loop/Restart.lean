import SensorLink.Double.Recorder
import SensorLink.Double.Script
import SensorLink.Proofs.Loop.Ends
import SensorLink.Proofs.Loop.Stored
import SensorLink.Proofs.Storage.Dependable

namespace SensorLink

namespace ScriptedReply

/-- What becomes of a request while these replies are left. -/
def outcomeOf : List ScriptedReply → SendOutcome
  | [] => { status := .exitLoop }
  | reply :: _ => reply.outcome

theorem ne_nil_of_outcomeOf {replies : List ScriptedReply} {response : Bytes}
    (h : (outcomeOf replies).result = .ok response) : replies ≠ [] := by
  rintro rfl
  cases h

theorem outcomeOf_append {replies : List ScriptedReply} (more : List ScriptedReply)
    (h : replies ≠ []) : outcomeOf (replies ++ more) = outcomeOf replies := by
  cases replies with
  | nil => exact absurd rfl h
  | cons reply rest => rfl

end ScriptedReply

theorem ScriptedTransport.send_eq (t : ScriptedTransport) (request : Bytes) :
    (Transport.send t request).1 = ScriptedReply.outcomeOf t.replies ∧
      (Transport.send t request).2.replies = t.replies.tail ∧
      (Transport.send t request).2.sent = t.sent ++ [request] := by
  obtain ⟨_ | ⟨reply, rest⟩, sent, resolved⟩ := t <;> exact ⟨rfl, rfl, rfl⟩

/-- What a run leaves on record: its requests, the commands executed, and its counts. -/
structure RunLog where
  sent : List Bytes := []
  commands : List Command := []
  polls : Nat := 0
  executed : Nat := 0
  failed : Nat := 0
deriving DecidableEq, Repr

namespace RunLog

def append (a b : RunLog) : RunLog :=
  ⟨a.sent ++ b.sent, a.commands ++ b.commands, a.polls + b.polls, a.executed + b.executed,
    a.failed + b.failed⟩

theorem append_assoc (a b c : RunLog) : (a.append b).append c = a.append (b.append c) := by
  simp [append, Nat.add_assoc]

theorem nil_append (a : RunLog) : append {} a = a := by simp [append]

theorem grow {past a b a' b' entry : RunLog} (h : a = past.append b) (ha : a' = a.append entry)
    (hb : b' = b.append entry) : a' = past.append b' := by
  rw [ha, hb, h, append_assoc]

end RunLog

namespace CounterLoop

open CommandLoop

abbrev Scripted (β υ : Type) := CounterLoop β υ ScriptedTransport

variable {β υ : Type}

/-- The replies that are left. -/
def replies (l : Scripted β υ) : List ScriptedReply := l.session.bridge.transport.replies

def log (l : Scripted β υ) : RunLog :=
  ⟨l.session.bridge.transport.sent, l.engine.executed, l.report.polls, l.report.executed,
    l.report.failed⟩

theorem log_countExecuted (l : Scripted β υ) :
    log l.countExecuted = l.log.append { executed := 1 } := by
  simp [log, RunLog.append, countExecuted]

theorem log_countFailed (l : Scripted β υ) :
    log l.countFailed = l.log.append { failed := 1 } := by
  simp [log, RunLog.append, countFailed]

section Sends

variable (l : Scripted β υ) (c : Command)

theorem outcome_asked : l.asked.outcome = ScriptedReply.outcomeOf l.replies :=
  (l.session.bridge.transport.send_eq _).1

theorem replies_answered : l.answered.replies = l.replies.tail :=
  (l.session.bridge.transport.send_eq _).2.1

theorem log_answered : l.answered.log = l.log.append { sent := [CounterEngine.poll], polls := 1 } := by
  have h := (l.session.bridge.transport.send_eq CounterEngine.poll).2.2
  simp [log, RunLog.append, answered, Session.request, Bridge.request, h]

theorem replies_unanswered : l.unanswered.replies = l.replies.tail :=
  (l.session.bridge.transport.send_eq _).2.1

theorem log_unanswered : l.unanswered.log = l.log.append { sent := [CounterEngine.poll] } := by
  have h := (l.session.bridge.transport.send_eq CounterEngine.poll).2.2
  simp [log, RunLog.append, unanswered, Session.request, Bridge.request, h]

variable [MountBackend β] [StateRecorder υ]

theorem outcome_confirming :
    (l.confirming c).outcome = ScriptedReply.outcomeOf l.answered.replies :=
  (l.answered.session.bridge.transport.send_eq _).1

theorem replies_confirmed : (l.confirmed c).replies = l.answered.replies.tail :=
  (l.answered.session.bridge.transport.send_eq _).2.1

theorem log_confirmed : (l.confirmed c).log = l.log.append
    { sent := [CounterEngine.poll, CounterEngine.confirmation c], commands := [c], polls := 1 } := by
  have hp := (l.session.bridge.transport.send_eq CounterEngine.poll).2.2
  have hc := (l.answered.session.bridge.transport.send_eq (CounterEngine.confirmation c)).2.2
  simp only [answered, Session.request, Bridge.request] at hc
  simp [log, RunLog.append, confirmed, executed, stored, bumped, answered, request, Session.request,
    Bridge.request, hp, hc]

end Sends

variable [MountBackend β] [StateRecorder υ]

/-- A run that goes on from a past, beside one that begins there: they do the same from now on, but
that the one which goes on has more replies left. -/
structure Continues (config : StorageConfig β υ) (past : RunLog) (more : List ScriptedReply)
    (l m : Scripted β υ) : Prop where
  replies : l.replies = m.replies ++ more
  log : l.log = past.append m.log
  state : l.engine.state = m.engine.state
  failing : l.engine.failing = m.engine.failing
  settled : Storage.Settled config l.session.storage l.engine.state
  settled' : Storage.Settled config m.session.storage m.engine.state

namespace Continues

variable {config : StorageConfig β υ} {past : RunLog} {more : List ScriptedReply}
  {l m l' m' : Scripted β υ} {sends : List (Sending CounterEngine β υ ScriptedTransport)}

theorem nextState (h : Continues config past more l m) :
    l.engine.nextState = m.engine.nextState := by
  rw [CounterEngine.nextState, CounterEngine.nextState, h.state]

theorem asked (h : Continues config past more l m) {response : Bytes}
    (hm : m.asked.outcome.result = .ok response) :
    l.asked.outcome.result = .ok response ∧ l.answered.replies = m.answered.replies ++ more := by
  rw [outcome_asked] at hm
  have hne := ScriptedReply.ne_nil_of_outcomeOf hm
  rw [outcome_asked, replies_answered, replies_answered, h.replies,
    ScriptedReply.outcomeOf_append more hne]
  exact ⟨hm, List.tail_append_of_ne_nil hne⟩

theorem confirming (h : Continues config past more l m) {c : Command} {response answer : Bytes}
    (hr : m.asked.outcome.result = .ok response)
    (hm : (m.confirming c).outcome.result = .ok answer) :
    (l.confirming c).outcome.result = .ok answer ∧
      (l.confirmed c).replies = (m.confirmed c).replies ++ more := by
  rw [outcome_confirming] at hm
  have hne := ScriptedReply.ne_nil_of_outcomeOf hm
  rw [outcome_confirming, replies_confirmed, replies_confirmed, (h.asked hr).2,
    ScriptedReply.outcomeOf_append more hne]
  exact ⟨hm, List.tail_append_of_ne_nil hne⟩

theorem log_answered (h : Continues config past more l m) :
    l.answered.log = past.append m.answered.log :=
  RunLog.grow h.log l.log_answered m.log_answered

theorem log_confirmed (h : Continues config past more l m) (c : Command) :
    (l.confirmed c).log = past.append (m.confirmed c).log :=
  RunLog.grow h.log (l.log_confirmed c) (m.log_confirmed c)

theorem round (h : Continues config past more l m) (hr : Round m none m' sends) :
    ∃ l', l.cycle = (none, l') ∧ Continues config past more l' m' := by
  cases hr with
  | idle hm hc =>
    obtain ⟨ha, hreplies⟩ := h.asked hm
    refine ⟨_, (Round.idle ha hc).cycle_eq.1, ?_⟩
    exact ⟨hreplies, h.log_answered, h.state, h.failing, h.settled, h.settled'⟩
  | cleared hm hc hp =>
    obtain ⟨ha, hreplies⟩ := h.asked hm
    obtain ⟨hpl, hl⟩ := h.settled.persists [] (by decide)
    refine ⟨_, (Round.cleared ha hc hpl).cycle_eq.1, ?_⟩
    exact ⟨hreplies, RunLog.grow h.log_answered (log_countExecuted _) (log_countExecuted _), rfl,
      h.failing, hl, h.settled'.of_persist hp⟩
  | refused hm hc hn hx hf =>
    obtain ⟨ha, hreplies⟩ := h.asked hm
    refine ⟨_, (Round.refused ha hc hn hx (h.failing ▸ hf)).cycle_eq.1, ?_⟩
    exact ⟨hreplies, RunLog.grow h.log_answered (log_countFailed _) (log_countFailed _), h.state,
      h.failing, h.settled, h.settled'⟩
  | @confirmed response answer c hm hc hn hx hf hp ha =>
    obtain ⟨hal, -⟩ := h.asked hm
    obtain ⟨hcl, hreplies⟩ := h.confirming hm ha
    obtain ⟨hpl, hl⟩ := h.settled.persists _ (length_nextState_lt l.engine)
    have hm' := h.settled'.of_persist hp
    rw [content_nextState] at hl hm'
    refine ⟨_, (Round.confirmed hal hc hn hx (h.failing ▸ hf) hpl hcl).cycle_eq.1, ?_⟩
    exact ⟨hreplies, RunLog.grow (h.log_confirmed c) (log_countExecuted _) (log_countExecuted _),
      congrArg some h.nextState, h.failing, hl, hm'⟩

section Ends

variable {ending : Ending}

theorem outcomes (h : Continues config past [] l m) (c : Command) :
    l.asked.outcome = m.asked.outcome ∧ l.answered.replies = m.answered.replies ∧
      (l.confirming c).outcome = (m.confirming c).outcome := by
  have hr : l.replies = m.replies := h.replies.trans (List.append_nil _)
  have ha : l.answered.replies = m.answered.replies := by
    rw [replies_answered, replies_answered, hr]
  exact ⟨by rw [outcome_asked, outcome_asked, hr], ha,
    by rw [outcome_confirming, outcome_confirming, ha]⟩

theorem unanswered (h : Continues config past [] l m) :
    Continues config past [] l.unanswered m.unanswered where
  replies := by
    rw [replies_unanswered, replies_unanswered, h.replies, List.append_nil, List.append_nil]
  log := RunLog.grow h.log l.log_unanswered m.log_unanswered
  state := h.state
  failing := h.failing
  settled := h.settled
  settled' := h.settled'

theorem confirmed (h : Continues config past [] l m) (c : Command) :
    Continues config past [] (l.confirmed c) (m.confirmed c) where
  replies := by
    rw [replies_confirmed, replies_confirmed, (h.outcomes c).2.1, List.append_nil]
  log := h.log_confirmed c
  state := congrArg some h.nextState
  failing := h.failing
  settled := by
    have hs := (h.settled.persists _ (length_nextState_lt l.engine)).2
    rw [content_nextState] at hs
    exact hs
  settled' := by
    have hs := (h.settled'.persists _ (length_nextState_lt m.engine)).2
    rw [content_nextState] at hs
    exact hs

theorem exiting (h : Continues config past more l m) :
    Continues config past more { l with state := .exiting } { m with state := .exiting } :=
  ⟨h.replies, h.log, h.state, h.failing, h.settled, h.settled'⟩

/-- A round that ends one run ends the other alike. -/
theorem last_round (h : Continues config past [] l m) (hr : Round m (some ending) m' sends) :
    ∃ ending' l', l.cycle = (some ending', l') ∧ Continues config past [] l' m' ∧
      ending'.map (fun _ => ()) = ending.map fun _ => () := by
  cases hr with
  | pollExit hm =>
    rw [← (h.outcomes .noCommand).1] at hm
    exact ⟨_, _, (Round.pollExit hm).cycle_eq.1, h.unanswered.exiting, rfl⟩
  | pollFailed hm he =>
    rw [← (h.outcomes .noCommand).1] at hm
    exact ⟨_, _, (Round.pollFailed hm he).cycle_eq.1, h.unanswered, rfl⟩
  -- a storage that can be relied on refuses no state
  | clearLost hm hc hp =>
    have hs := (h.settled'.persists [] (by decide)).1
    rw [hp] at hs
    cases hs
  | lost hm hc hn hx hf hp =>
    have hs := (h.settled'.persists _ (length_nextState_lt m.engine)).1
    rw [hp] at hs
    cases hs
  | @confirmExit response c hm hc hn hx hf hp ha =>
    obtain ⟨hasked, -, hconfirming⟩ := h.outcomes c
    rw [← hasked] at hm
    rw [← hconfirming] at ha
    have hpl := (h.settled.persists _ (length_nextState_lt l.engine)).1
    exact ⟨_, _, (Round.confirmExit hm hc hn hx (h.failing ▸ hf) hpl ha).cycle_eq.1,
      (h.confirmed c).exiting, rfl⟩
  | @confirmFailed response c e hm hc hn hx hf hp ha he =>
    obtain ⟨hasked, -, hconfirming⟩ := h.outcomes c
    rw [← hasked] at hm
    rw [← hconfirming] at ha
    have hpl := (h.settled.persists _ (length_nextState_lt l.engine)).1
    exact ⟨_, _, (Round.confirmFailed hm hc hn hx (h.failing ▸ hf) hpl ha he).cycle_eq.1,
      h.confirmed c, rfl⟩

end Ends

theorem cycles (h : Continues config past [] l m) :
    Continues config past [] l.cycles.2 m.cycles.2 ∧
      l.cycles.1.map (fun _ => ()) = m.cycles.1.map fun _ => () := by
  refine cycles_induction (motive := fun m ending m' => ∀ l, Continues config past [] l m →
    Continues config past [] l.cycles.2 m' ∧ l.cycles.1.map (fun _ => ()) = ending.map fun _ => ())
    ?_ ?_ m l h
  · intro m ending m' sends hround l h
    obtain ⟨ending', l', hcycle, hcont, hkind⟩ := h.last_round hround
    rw [cycles_of_some hcycle]
    exact ⟨hcont, hkind⟩
  · intro m m' sends ending m'' hround ih l h
    obtain ⟨l', hcycle, hcont⟩ := h.round hround
    rw [cycles_of_none hcycle]
    exact ih l' hcont

end Continues

section Exhausted

variable {l l' : Scripted β υ} {result : Option Ending}
  {sends : List (Sending CounterEngine β υ ScriptedTransport)}

theorem Round.sent_eq (h : Round l result l' sends) :
    l'.log.sent = l.log.sent ++ sends.map (·.request) := by
  cases h with
  | pollExit _ | pollFailed _ _ => exact congrArg RunLog.sent l.log_unanswered
  | idle _ _ | cleared _ _ _ | clearLost _ _ _ | refused _ _ _ _ _ | lost _ _ _ _ _ _ =>
    exact congrArg RunLog.sent l.log_answered
  | confirmed _ _ _ _ _ _ _ | confirmExit _ _ _ _ _ _ _ | confirmFailed _ _ _ _ _ _ _ _ =>
    exact congrArg RunLog.sent (l.log_confirmed _)

theorem Round.length_replies (h : Round l none l' sends) :
    sends.length + l'.replies.length = l.replies.length := by
  have hpoll {response : Bytes} (h : l.asked.outcome.result = .ok response) :
      1 + l.answered.replies.length = l.replies.length := by
    rw [outcome_asked] at h
    have hpos := List.length_pos_iff.2 (ScriptedReply.ne_nil_of_outcomeOf h)
    rw [replies_answered, List.length_tail]
    omega
  cases h with
  | idle h _ | cleared h _ _ | refused h _ _ _ _ => exact hpoll h
  | @confirmed response answer c h hc hn hx hf hp ha =>
    have hfirst := hpoll h
    rw [outcome_confirming] at ha
    have hpos := List.length_pos_iff.2 (ScriptedReply.ne_nil_of_outcomeOf ha)
    have hlast : (l.confirmed c).replies.length = l.answered.replies.length - 1 := by
      rw [replies_confirmed, List.length_tail]
    show 2 + (l.confirmed c).replies.length = l.replies.length
    omega

theorem Round.exhausted {ending : Ending} (h : Round l (some ending) l' sends)
    (hlen : sends.length = l.replies.length + 1)
    (hlast : (sends.map (·.request)).getLast? = some CounterEngine.poll) :
    l.replies = [] ∧ ending = .ok l.report ∧ l' = { l.unanswered with state := .exiting } := by
  have hnil (h : sends.length = 1) : l.replies = [] := List.eq_nil_of_length_eq_zero (by omega)
  have hnone {response : Bytes} (hr : l.replies = []) (h : l.asked.outcome.result = .ok response) :
      False := by
    rw [outcome_asked] at h
    exact ScriptedReply.ne_nil_of_outcomeOf h hr
  have hpoll {c : Command} (h : some (CounterEngine.confirmation c) = some CounterEngine.poll) :
      False := CounterEngine.poll_ne_confirmation c (Option.some.inj h).symm
  cases h with
  | pollExit h => exact ⟨hnil rfl, rfl, rfl⟩
  | pollFailed h he =>
    rw [outcome_asked, hnil rfl] at h
    cases h
    exact absurd rfl he
  | clearLost h hc hp => exact (hnone (hnil rfl) h).elim
  | lost h hc hn hx hf hp => exact (hnone (hnil rfl) h).elim
  | confirmExit h hc hn hx hf hp ha => exact (hpoll hlast).elim
  | confirmFailed h hc hn hx hf hp ha he => exact (hpoll hlast).elim

end Exhausted

variable {config : StorageConfig β υ} {past : RunLog} {more : List ScriptedReply}
  {l m : Scripted β υ}

/-- If one of two runs in step ends because its replies are used up at a poll, the other comes to that
poll as well. -/
theorem Continues.until_exhausted (h : Continues config past more l m)
    (hlen : (CounterLoop.log m.cycles.2).sent.length = m.log.sent.length + m.replies.length + 1)
    (hlast : (CounterLoop.log m.cycles.2).sent.getLast? = some CounterEngine.poll) :
    ∃ l' m', Continues config past more l' m' ∧ l.cycles = l'.cycles ∧ m'.replies = [] ∧
      m'.engine.failing = m.engine.failing ∧
      m.cycles.2 = { m'.unanswered with state := .exiting } := by
  refine cycles_induction (motive := fun m _ m'' => ∀ l, Continues config past more l m →
    m''.log.sent.length = m.log.sent.length + m.replies.length + 1 →
    m''.log.sent.getLast? = some CounterEngine.poll →
    ∃ l' m', Continues config past more l' m' ∧ l.cycles = l'.cycles ∧ m'.replies = [] ∧
      m'.engine.failing = m.engine.failing ∧
      m'' = { m'.unanswered with state := .exiting }) ?_ ?_ m l h hlen hlast
  · intro m ending m' sends hround l h hlen hlast
    rw [hround.sent_eq, List.length_append, List.length_map] at hlen
    rw [hround.sent_eq, List.getLast?_append] at hlast
    have hpoll : (sends.map (·.request)).getLast? = some CounterEngine.poll := by
      cases hq : (sends.map (·.request)).getLast? with
      | none =>
        have hnil : sends = [] := by simpa using hq
        rw [hnil, List.length_nil] at hlen
        omega
      | some request =>
        rw [hq] at hlast
        exact hlast
    -- the last round is a poll that found no reply left
    obtain ⟨hnil, -, hm'⟩ := hround.exhausted (by omega) hpoll
    exact ⟨l, m, h, rfl, hnil, rfl, hm'⟩
  · intro m m' sends ending m'' hround ih l h hlen hlast
    obtain ⟨l', hcycle, hcont⟩ := h.round hround
    have hused := hround.length_replies
    have hsent := congrArg List.length hround.sent_eq
    rw [List.length_append, List.length_map] at hsent
    rw [cycles_of_none hcycle, ← hround.failing_eq]
    exact ih l' hcont (by omega) hlast

section Start

variable (l : Scripted β υ) (storage : Storage β υ)

omit [MountBackend β] [StateRecorder υ] in
theorem outcome_enrolling : (l.enrolling storage).outcome = ScriptedReply.outcomeOf l.replies :=
  (l.session.bridge.transport.send_eq _).1

omit [MountBackend β] [StateRecorder υ] in
theorem replies_enrollSent : (l.enrollSent storage).replies = l.replies.tail :=
  (l.session.bridge.transport.send_eq _).2.1

omit [MountBackend β] [StateRecorder υ] in
theorem log_enrollSent : (l.enrollSent storage).log =
    l.log.append { sent := [CounterEngine.enrollRequest] } := by
  have h := (l.session.bridge.transport.send_eq CounterEngine.enrollRequest).2.2
  simp [log, RunLog.append, enrollSent, Bridge.request, h]

variable {l} {l' : Scripted β υ} {sends : List (Sending CounterEngine β υ ScriptedTransport)}

theorem Opening.sent_eq {result : Option Ending} (h : Opening l result l' sends) :
    l'.log.sent = l.log.sent ++ sends.map (·.request) := by
  cases h with
  | unread _ | restored _ => exact (List.append_nil _).symm
  | enrollExit _ _ | enrollFailed _ _ _ | enrolled _ _ _ | enrollLost _ _ _ =>
    exact congrArg RunLog.sent (l.log_enrollSent _)

theorem Opening.getLast?_ne_poll {ending : Ending} (h : Opening l (some ending) l' sends)
    (hl : l.log.sent = []) : l'.log.sent.getLast? ≠ some CounterEngine.poll := by
  have hne : some CounterEngine.enrollRequest ≠ some CounterEngine.poll := fun h =>
    CounterEngine.poll_ne_enrollRequest (Option.some.inj h).symm
  rw [h.sent_eq, hl, List.nil_append]
  cases h with
  | unread _ => simp
  | enrollExit _ _ | enrollFailed _ _ _ | enrollLost _ _ _ => exact hne

theorem Opening.length_replies (h : Opening l none l' sends) :
    sends.length + l'.replies.length = l.replies.length := by
  cases h with
  | restored _ => exact Nat.zero_add _
  | @enrolled storage state h ha hp =>
    rw [outcome_enrolling] at ha
    have hpos := List.length_pos_iff.2 (ScriptedReply.ne_nil_of_outcomeOf ha)
    have hrest := congrArg List.length (l.replies_enrollSent storage)
    rw [List.length_tail] at hrest
    show 1 + (l.enrollSent storage).replies.length = l.replies.length
    omega

end Start

/-- A loop that has not run yet, with a new engine. -/
def fresh (devEui : DevEui) (storage : Storage β υ) (failing : List Command) (options : LoopOptions)
    (replies : List ScriptedReply) : Scripted β υ :=
  unstarted ⟨devEui, storage, { transport := { replies } }⟩ { failing } options

section Fresh

variable {devEui : DevEui} {storage storage' : Storage β υ} {failing : List Command}
  {options : LoopOptions} {state : Bytes}

theorem Opening.continues {before : List ScriptedReply}
    {sends : List (Sending CounterEngine β υ ScriptedTransport)}
    (h : Opening (fresh devEui storage failing options before) none m sends)
    (more : List ScriptedReply) (ho : Storage.OpenedBy config storage) (hd : storage.Dependable) :
    ∃ l, (fresh devEui storage failing options (before ++ more)).opened = (none, l) ∧
      Continues config {} more l m := by
  let l₀ : Scripted β υ := fresh devEui storage failing options (before ++ more)
  cases h with
  | restored h =>
    have hs := Storage.Settled.of_load ho hd h
    refine ⟨_, (Opening.restored (l := l₀) h).opened_eq.1, ?_⟩
    exact ⟨rfl, (RunLog.nil_append _).symm, rfl, rfl, hs, hs⟩
  | @enrolled storage' state h ha hp =>
    have hne : before ≠ [] := by
      rw [outcome_enrolling] at ha
      exact ScriptedReply.ne_nil_of_outcomeOf ha
    have ha' : (l₀.enrolling storage').outcome.result = .ok state := by
      rw [outcome_enrolling] at ha ⊢
      exact (congrArg _ (ScriptedReply.outcomeOf_append more hne)).trans ha
    have hs := (Storage.Settled.of_load ho hd h).of_persist hp
    rw [Record.content, if_neg (SendOutcome.ne_nil_of_result ha)] at hs
    refine ⟨_, (Opening.enrolled (l := l₀) h ha' hp).opened_eq.1, ?_, ?_, rfl, rfl, hs, hs⟩
    · show (l₀.enrollSent storage').replies = ((fresh _ _ _ _ _).enrollSent storage').replies ++ more
      rw [replies_enrollSent, replies_enrollSent]
      exact List.tail_append_of_ne_nil hne
    · exact RunLog.grow (RunLog.nil_append _).symm (log_enrollSent _ _) (log_enrollSent _ _)

/-- A new loop on a storage that holds a state takes that up and goes on. -/
theorem continues_fresh (devEui : DevEui) (options : LoopOptions) (hl : l.replies = more)
    (hs : Storage.Settled config l.session.storage (some state))
    (hstate : l.engine.state = some state) (hfailing : l.engine.failing = failing)
    (hload : storage.load = (.ok (some state), storage'))
    (hs' : Storage.Settled config storage' (some state)) :
    ∃ m, (fresh devEui storage failing options more).opened = (none, m) ∧
      Continues config l.log [] l m := by
  refine ⟨_, (Opening.restored hload).opened_eq.1, ?_, ?_, hstate, hfailing, hstate ▸ hs, hs'⟩
  · exact hl.trans (List.append_nil _).symm
  · simp [log, RunLog.append, fresh, unstarted]

end Fresh

/-- Opens a session and runs a new engine over scripted replies to the end. -/
def freshRun (devEui : DevEui) (config : StorageConfig β υ) (files : FileTree)
    (failing : List Command) (options : LoopOptions) (replies : List ScriptedReply) :
    Except (SensorError × Storage β υ) (Ending × Scripted β υ) :=
  (Session.make devEui config files { replies }).map fun session =>
    CommandLoop.run (unstarted session { failing } options)

section FreshRun

variable {devEui : DevEui} {files : FileTree} {failing : List Command} {options : LoopOptions}
  {replies : List ScriptedReply}

theorem freshRun_of_prepare (h : (Storage.make config files).prepare.1 = .ok ()) :
    freshRun devEui config files failing options replies =
      .ok (CommandLoop.run (fresh devEui (Storage.make config files).prepare.2 failing options
        replies)) := by
  unfold freshRun Session.make
  rcases hp : (Storage.make config files).prepare with ⟨e | ⟨⟩, s⟩ <;> rw [hp] at h
  · cases h
  · rfl

theorem prepare_of_freshRun {p : Ending × Scripted β υ}
    (h : freshRun devEui config files failing options replies = .ok p) :
    (Storage.make config files).prepare.1 = .ok () := by
  unfold freshRun Session.make at h
  rcases hp : (Storage.make config files).prepare with ⟨e | ⟨⟩, s⟩
  · rw [hp] at h
    cases h
  · rfl

end FreshRun

theorem exhausted_of_run {storage : Storage β υ} {devEui : DevEui} {failing : List Command}
    {options : LoopOptions} {before : List ScriptedReply} {ending : Ending} {l₁ : Scripted β υ}
    (more : List ScriptedReply) (ho : Storage.OpenedBy config storage) (hd : storage.Dependable)
    (hrun : (fresh devEui storage failing options before).run = (ending, l₁))
    (hlen : l₁.log.sent.length = before.length + 1)
    (hpoll : l₁.log.sent.getLast? = some CounterEngine.poll) :
    ∃ l m, Continues config {} more l m ∧ m.replies = [] ∧ m.engine.failing = failing ∧
      l₁ = { m.unanswered with state := .exiting } ∧
      (fresh devEui storage failing options (before ++ more)).run = l.cycles := by
  have hopen := (fresh devEui storage failing options before).opened_opening
  rw [run_eq] at hrun
  rcases hs : (fresh devEui storage failing options before).opened with ⟨_ | ending', m⟩ <;>
    rw [hs] at hrun hopen
  -- past their starts the runs are in step until the shorter one has used up its replies
  · obtain ⟨l, hl, hcont⟩ := hopen.continues more ho hd
    have h₁ : m.cycles.2 = l₁ := congrArg Prod.snd hrun
    have hbudget : m.log.sent.length + m.replies.length = before.length := by
      have hused : _ = before.length := hopen.length_replies
      have hsent : m.log.sent = _ := hopen.sent_eq
      rw [hsent, ← hused, List.length_append, List.length_map]
      exact congrArg (· + _) (Nat.zero_add _)
    obtain ⟨l', m', hcont', hcycles, hnil, hfailing, hend⟩ := hcont.until_exhausted
      (by rw [h₁, hlen, hbudget]) (by rw [h₁, hpoll])
    refine ⟨l', m', hcont', hnil, hfailing.trans hopen.failing_eq, h₁.symm.trans hend, ?_⟩
    rw [run_eq, hl]
    exact hcycles
  · obtain ⟨rfl, rfl⟩ := Prod.mk.inj hrun
    exact absurd hpoll (hopen.getLast?_ne_poll rfl)

/-- A run that is interrupted at a poll loses nothing. On a storage that can be relied on, the run of
a new engine over the second part of a script, started on what the run over the first part has left,
ends as one run over both parts does and leaves the same state; its requests, commands and counts are
those that the one run has beyond the first part, whose last poll it repeats. -/
theorem restart_transparent (devEui : DevEui) (config : StorageConfig β υ) (files : FileTree)
    (failing : List Command) (options : LoopOptions) (before after : List ScriptedReply)
    {ending₁ : Ending} {l₁ : Scripted β υ} {state : Bytes}
    (hs : (Storage.make config files).Dependable)
    (h₁ : freshRun devEui config files failing options before = .ok (ending₁, l₁))
    (hlen : l₁.log.sent.length = before.length + 1)
    (hpoll : l₁.log.sent.getLast? = some CounterEngine.poll)
    (hstored : l₁.session.storage.load.1 = .ok (some state)) :
    let closed := l₁.session.storage.close
    ∃ ending l ending₂ l₂ final,
      freshRun devEui config files failing options (before ++ after) = .ok (ending, l) ∧
      freshRun devEui (config.resume closed) closed.files failing options after =
        .ok (ending₂, l₂) ∧
      l.session.storage.load.1 = .ok final ∧ l₂.session.storage.load.1 = .ok final ∧
      l.session.storage.close.load.1 = .ok final ∧ l₂.session.storage.close.load.1 = .ok final ∧
      ending.map (fun _ => ()) = ending₂.map (fun _ => ()) ∧
      l.log = { l₁.log with sent := l₁.log.sent.dropLast }.append l₂.log := by
  intro closed
  have hprepare := prepare_of_freshRun h₁
  have ho := Storage.OpenedBy.make hprepare
  rw [freshRun_of_prepare hprepare, ho.prepare_eq] at h₁
  -- the run over the first part comes to its last poll in step with the one run
  obtain ⟨l, m, hcont, hnil, hfailing, rfl, hsingle⟩ := exhausted_of_run after
    (ho.mounting (Storage.ensureMounted_mounting _)) (hs.of_reachable (.mount .refl))
    (Except.ok.inj h₁) hlen hpoll
  have hstate : m.engine.state = some state := by
    have hload := hcont.settled'.load
    exact Except.ok.inj ((congrArg Prod.fst hload).symm.trans hstored)
  have hsettled : Storage.Settled config m.session.storage (some state) := hstate ▸ hcont.settled'
  -- the second run starts from there with that state
  obtain ⟨hprepare₂, s', hload₂, hs'⟩ := hsettled.restart
  obtain ⟨m₂, hopen₂, hcont₂⟩ := continues_fresh devEui options
    (hcont.replies.trans (by rw [hnil, List.nil_append])) (hcont.state.trans hstate ▸ hcont.settled)
    (hcont.state.trans hstate) (hcont.failing.trans hfailing) hload₂ hs'
  obtain ⟨hend, hkind⟩ := hcont₂.cycles
  refine ⟨l.cycles.1, l.cycles.2, m₂.cycles.1, m₂.cycles.2, m₂.cycles.2.engine.state, ?_, ?_, ?_, ?_,
    ?_, ?_, hkind, ?_⟩
  · rw [freshRun_of_prepare hprepare, ho.prepare_eq, hsingle]
  · exact (freshRun_of_prepare hprepare₂).trans (by rw [run_eq, hopen₂])
  · rw [hend.settled.load, hend.state]
  · rw [hend.settled'.load]
  · rw [hend.settled.load_close, hend.state]
  · rw [hend.settled'.load_close]
  · have hpast : { m.unanswered.log with sent := m.unanswered.log.sent.dropLast } = l.log := by
      rw [m.log_unanswered, hcont.log]
      simp [RunLog.append]
    rw [hend.log, ← hpast]
    rfl

section Cleared

/-- An empty directory of the application. -/
def dataDirectory : StorageConfig DirectoryBackend NotingRecorder := .fileApplication ⟨["data"]⟩

def dataFiles : FileTree := FileTree.put {} ["data"] .dir

/-- An enrollment, a command, one that the engine refuses, the order to clear, and a command. -/
def firstAnswers : List ScriptedReply :=
  [.respond [7], .respond [1], .respond [9], .respond [2], .respond [5], .respond [3], .respond [9]]

def laterAnswers : List ScriptedReply :=
  [.respond [4, 4], .respond [9], .respond [0], .fail .noConnection]

def begun : Scripted DirectoryBackend NotingRecorder :=
  fresh ⟨1⟩ (Storage.make dataDirectory dataFiles).prepare.2 [.subscribeToAnnouncementLink] {}
    firstAnswers

theorem dataDirectory_prepare : (Storage.make dataDirectory dataFiles).prepare.1 = .ok () := by
  have hd : dataFiles.isDir ⟨["data"]⟩ = true := by decide +kernel
  simp [Storage.prepare, Storage.make, dataDirectory, hd]

theorem dataDirectory_dependable : (Storage.make dataDirectory dataFiles).Dependable := by
  obtain ⟨dir, loc, h⟩ := Record.Writable.of_isOk (t := dataFiles)
    (p := Path.join ⟨["data"]⟩ Record.fileName) (by decide +kernel) (by decide +kernel)
  exact Storage.dependable_of_writable h

theorem run_begun : begun.run.2 = (runUpTo 8 begun).2 := by
  have hsome : (runUpTo 8 begun).1.isSome = true := by decide +kernel
  rcases h : runUpTo 8 begun with ⟨_ | ending, l⟩
  · rw [h] at hsome
    cases hsome
  · rw [run_of_runUpTo h]

/-- Interrupted after a clear and one more command, the run is taken up from the counter's first
state. -/
theorem restart_transparent_after_clear :
    let l₁ : Scripted DirectoryBackend NotingRecorder := begun.run.2
    let closed := l₁.session.storage.close
    (Storage.make dataDirectory dataFiles).Dependable ∧
    freshRun ⟨1⟩ dataDirectory dataFiles [.subscribeToAnnouncementLink] {} firstAnswers =
      .ok (begun.run.1, l₁) ∧
    l₁.log.sent.length = firstAnswers.length + 1 ∧
    l₁.log.sent.getLast? = some CounterEngine.poll ∧
    l₁.session.storage.load.1 = .ok (some [1, 0, 0, 0, 0, 0, 0, 0]) ∧
    ∃ ending l ending₂ l₂ final,
      freshRun ⟨1⟩ dataDirectory dataFiles [.subscribeToAnnouncementLink] {}
        (firstAnswers ++ laterAnswers) = .ok (ending, l) ∧
      freshRun ⟨1⟩ (dataDirectory.resume closed) closed.files [.subscribeToAnnouncementLink] {}
        laterAnswers = .ok (ending₂, l₂) ∧
      l.session.storage.load.1 = .ok final ∧ l₂.session.storage.load.1 = .ok final ∧
      l.session.storage.close.load.1 = .ok final ∧ l₂.session.storage.close.load.1 = .ok final ∧
      ending.map (fun _ => ()) = ending₂.map (fun _ => ()) ∧
      l.log = { l₁.log with sent := l₁.log.sent.dropLast }.append l₂.log := by
  intro l₁ closed
  have hlen : l₁.log.sent.length = firstAnswers.length + 1 := by
    rw [show l₁ = _ from run_begun]
    decide +kernel
  have hpoll : l₁.log.sent.getLast? = some CounterEngine.poll := by
    rw [show l₁ = _ from run_begun]
    decide +kernel
  have hstored : l₁.session.storage.load.1 = .ok (some [1, 0, 0, 0, 0, 0, 0, 0]) := by
    have hread : l₁.session.storage.load.1.toOption = some (some [1, 0, 0, 0, 0, 0, 0, 0]) := by
      rw [show l₁ = _ from run_begun]
      decide +kernel
    cases h : l₁.session.storage.load.1 with
    | error e =>
      rw [h] at hread
      cases hread
    | ok state =>
      rw [h] at hread
      exact congrArg _ (Option.some.inj hread)
  have hrun : freshRun ⟨1⟩ dataDirectory dataFiles [.subscribeToAnnouncementLink] {} firstAnswers =
      .ok begun.run := freshRun_of_prepare dataDirectory_prepare
  exact ⟨dataDirectory_dependable, hrun, hlen, hpoll, hstored,
    restart_transparent ⟨1⟩ dataDirectory dataFiles [.subscribeToAnnouncementLink] {} firstAnswers
      laterAnswers dataDirectory_dependable hrun hlen hpoll hstored⟩

end Cleared

end CounterLoop

end SensorLink
