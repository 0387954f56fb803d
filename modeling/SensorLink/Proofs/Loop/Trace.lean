import Mathlib.Data.List.Chain
import SensorLink.Proofs.Command.Wire
import SensorLink.Proofs.Loop.Ends

namespace SensorLink

namespace Command

theorem carriedBy_cons (n : UInt8) (args : Bytes) :
    (carriedBy (n :: args)).id = n ∨ carriedBy (n :: args) = .noCommand ∧ 5 < n := by
  simp only [carriedBy, decode]
  cases hc : ofId n with
  | ok c => exact Or.inl (ofId_eq_ok.1 hc)
  | error e => exact Or.inr ⟨rfl, (of_ofId_eq_error hc).2⟩

end Command

inductive Order where
  | nothing
  | clear
  | refused
  | execute
deriving DecidableEq, Repr

namespace Order

def ofByte (failing : List Command) (n : UInt8) : Order :=
  if n = 0 ∨ 5 < n then .nothing
  else if n = 5 then .clear
  else if n ∈ failing.map Command.id then .refused
  else .execute

def ofCommand (failing : List Command) : Command → Order
  | .noCommand => .nothing
  | .clearClientState => .clear
  | c => if c ∈ failing then .refused else .execute

variable (failing : List Command)

theorem ofByte_id (c : Command) : ofByte failing c.id = ofCommand failing c := by
  have hmem : c.id ∈ failing.map Command.id ↔ c ∈ failing := by
    simp [Command.id_inj]
  unfold ofByte
  rw [if_congr hmem rfl rfl]
  cases c <;> rfl

theorem ofByte_eq (n : UInt8) (args : Bytes) :
    ofByte failing n = ofCommand failing (Command.carriedBy (n :: args)) := by
  rcases Command.carriedBy_cons n args with hid | ⟨hc, hlt⟩
  · rw [← ofByte_id, hid]
  · rw [hc]
    exact if_pos (Or.inr hlt)

variable {failing} {c : Command}

theorem ofCommand_of_ne (hn : c ≠ .noCommand) (hx : c ≠ .clearClientState) :
    ofCommand failing c = if c ∈ failing then .refused else .execute := by
  cases c with
  | noCommand => exact absurd rfl hn
  | clearClientState => exact absurd rfl hx
  | startSendingMessages | subscribeToAnnouncementLink | registerKeyloadMessage
  | printlnSubscriberStatus => rfl

theorem ofCommand_of_mem (hn : c ≠ .noCommand) (hx : c ≠ .clearClientState) (hf : c ∈ failing) :
    ofCommand failing c = .refused := by
  rw [ofCommand_of_ne hn hx, if_pos hf]

theorem ofCommand_of_not_mem (hn : c ≠ .noCommand) (hx : c ≠ .clearClientState) (hf : c ∉ failing) :
    ofCommand failing c = .execute := by
  rw [ofCommand_of_ne hn hx, if_neg hf]

end Order

namespace Sending

variable {β υ τ : Type}

def isPoll (s : Sending CounterEngine β υ τ) : Bool := s.request == CounterEngine.poll

def isConfirmation (s : Sending CounterEngine β υ τ) : Bool :=
  (utf8 "confirm").isPrefixOf s.request

/-- Whether the storage, as it stands at the send, takes the state. -/
def persists [MountBackend β] [StateRecorder υ] (s : Sending CounterEngine β υ τ) (state : Bytes) :
    Bool :=
  (s.loop.session.storage.persist state).1

variable [Transport τ]

/-- The first byte of the response, if the send is a poll that brought one. -/
def pollByte? (s : Sending CounterEngine β υ τ) : Option UInt8 :=
  if s.isPoll then s.outcome.result.toOption.bind List.head? else none

variable (failing : List Command)

def asks (o : Order) (s : Sending CounterEngine β υ τ) : Bool :=
  s.pollByte?.map (Order.ofByte failing) == some o

/-- An answered poll that leaves the engine with nothing to do. -/
def isIdle (s : Sending CounterEngine β υ τ) : Bool :=
  s.asks failing .nothing || s.asks failing .refused

variable [MountBackend β] [StateRecorder υ]

/-- What is sent between a poll and the next one. -/
def followUp (s : Sending CounterEngine β υ τ) : List Bytes :=
  if s.asks failing .execute && s.persists s.loop.engine.nextState then
    s.pollByte?.toList.map fun n => utf8 "confirm" ++ [n]
  else []

/-- Whether the send brings a first state, and the storage takes it. -/
def enrolls (s : Sending CounterEngine β υ τ) : Bool :=
  s.request == CounterEngine.enrollRequest && s.outcome.result.toOption.any s.persists

/-- Whether the send brings the order to clear the state, and the storage follows it. -/
def clears (s : Sending CounterEngine β υ τ) : Bool :=
  s.asks failing .clear && s.persists []

def confirms (s : Sending CounterEngine β υ τ) : Bool := s.isConfirmation && s.outcome.answers

/-- Whether the round ends with the send and comes to nothing: the storage refuses the new state, or
the confirmation is not answered. -/
def aborts (s : Sending CounterEngine β υ τ) : Bool :=
  s.asks failing .clear && !s.persists [] ||
  s.asks failing .execute && !s.persists s.loop.engine.nextState ||
  s.isConfirmation && !s.outcome.answers

end Sending

namespace CounterLoop

open CommandLoop

variable {β υ τ : Type}

@[simp] theorem isPoll_asked (l : CounterLoop β υ τ) : l.asked.isPoll = true :=
  beq_self_eq_true CounterEngine.poll

@[simp] theorem isConfirmation_asked (l : CounterLoop β υ τ) : l.asked.isConfirmation = false := by
  have h : (utf8 "confirm").isPrefixOf CounterEngine.poll = false := by decide +kernel
  exact h

@[simp] theorem isPoll_enrolling (l : CounterLoop β υ τ) (storage : Storage β υ) :
    (l.enrolling storage).isPoll = false :=
  beq_false_of_ne CounterEngine.poll_ne_enrollRequest.symm

@[simp] theorem isConfirmation_enrolling (l : CounterLoop β υ τ) (storage : Storage β υ) :
    (l.enrolling storage).isConfirmation = false := by
  have h : (utf8 "confirm").isPrefixOf CounterEngine.enrollRequest = false := by decide +kernel
  exact h

variable [Transport τ] {l l' : CounterLoop β υ τ} {failing : List Command}

@[simp] theorem pollByte?_enrolling (l : CounterLoop β υ τ) (storage : Storage β υ) :
    (l.enrolling storage).pollByte? = none := by
  simp [Sending.pollByte?]

@[simp] theorem asks_enrolling (l : CounterLoop β υ τ) (storage : Storage β υ) (o : Order) :
    (l.enrolling storage).asks failing o = false := by
  simp [Sending.asks]

theorem pollByte?_of_error {e : BridgeError} (h : l.asked.outcome.result = .error e) :
    l.asked.pollByte? = none := by
  simp only [Sending.pollByte?, isPoll_asked, h, if_true]
  rfl

theorem asks_of_error {e : BridgeError} (h : l.asked.outcome.result = .error e) (o : Order) :
    l.asked.asks failing o = false := by
  rw [Sending.asks, pollByte?_of_error h]
  rfl

section Responses

variable {response : Bytes} {c : Command}

theorem exists_pollByte? (h : l.asked.outcome.result = .ok response) :
    ∃ n args, response = n :: args ∧ l.asked.pollByte? = some n := by
  cases response with
  | nil => exact absurd rfl (SendOutcome.ne_nil_of_result h)
  | cons n args =>
    refine ⟨n, args, rfl, ?_⟩
    simp only [Sending.pollByte?, isPoll_asked, h, if_true]
    rfl

theorem pollByte?_isSome (h : l.asked.outcome.result = .ok response) :
    l.asked.pollByte?.isSome = true := by
  obtain ⟨n, args, -, hb⟩ := exists_pollByte? h
  rw [hb]
  rfl

theorem pollByte?_of_command (h : l.asked.outcome.result = .ok response)
    (hc : Command.carriedBy response = c) (hn : c ≠ .noCommand) :
    l.asked.pollByte? = some c.id := by
  obtain ⟨n, args, rfl, hb⟩ := exists_pollByte? h
  rcases Command.carriedBy_cons n args with hid | ⟨hno, -⟩
  · rw [hb, ← hc, hid]
  · exact absurd (hc.symm.trans hno) hn

theorem asks_of_response {d : Order} (h : l.asked.outcome.result = .ok response)
    (hc : Command.carriedBy response = c) (hd : Order.ofCommand failing c = d) (o : Order) :
    l.asked.asks failing o = (some d == some o) := by
  obtain ⟨n, args, rfl, hb⟩ := exists_pollByte? h
  rw [Sending.asks, hb, Option.map_some, Order.ofByte_eq failing n args, hc, hd]

end Responses

section Confirming

variable [MountBackend β] [StateRecorder υ] (l : CounterLoop β υ τ) (c : Command)

@[simp] theorem isPoll_confirming : (l.confirming c).isPoll = false :=
  beq_false_of_ne (CounterEngine.poll_ne_confirmation c).symm

@[simp] theorem isConfirmation_confirming : (l.confirming c).isConfirmation = true := by
  have h : (utf8 "confirm").isPrefixOf (CounterEngine.confirmation c) = true := by
    simp [CounterEngine.confirmation]
  exact h

@[simp] theorem pollByte?_confirming : (l.confirming c).pollByte? = none := by
  simp [Sending.pollByte?]

@[simp] theorem asks_confirming (o : Order) : (l.confirming c).asks failing o = false := by
  simp [Sending.asks]

@[simp] theorem enrolls_confirming : (l.confirming c).enrolls = false := by
  have h : (CounterEngine.confirmation c == CounterEngine.enrollRequest) = false := by
    cases c <;> decide +kernel
  simp only [Sending.enrolls, confirming, h, Bool.false_and]

@[simp] theorem enrolls_asked : l.asked.enrolls = false := by
  have h : (CounterEngine.poll == CounterEngine.enrollRequest) = false :=
    beq_false_of_ne CounterEngine.poll_ne_enrollRequest
  simp only [Sending.enrolls, asked, h, Bool.false_and]

end Confirming

variable [MountBackend β] [StateRecorder υ] {result : Option Ending}
  {sends rest : List (Sending CounterEngine β υ τ)}

/-- What a part of a run adds to the trace and to the report. -/
structure Account (failing : List Command) (opening : List Bytes) (result : Option Ending)
    (l l' : CounterLoop β υ τ) (sends : List (Sending CounterEngine β υ τ)) : Prop where
  requests : sends.map (·.request) = opening ++
    (sends.filter Sending.isPoll).flatMap fun s => CounterEngine.poll :: s.followUp failing
  enrolled : l'.report.enrolled = (l.report.enrolled || sends.any Sending.enrolls)
  polls : l'.report.polls = l.report.polls + sends.countP (·.pollByte?.isSome)
  failed : l'.report.failed = l.report.failed + sends.countP (·.asks failing .refused)
  executed : l'.report.executed =
    l.report.executed + sends.countP (·.clears failing) + sends.countP Sending.confirms
  balance : sends.countP (·.pollByte?.isSome) =
    sends.countP (·.asks failing .nothing) + sends.countP (·.asks failing .refused) +
      sends.countP (·.clears failing) + sends.countP Sending.confirms +
      if sends.getLast?.any (·.aborts failing) then 1 else 0
  going : result = none → sends.getLast?.any (·.aborts failing) = false
  reported : ∀ report, result = some (.ok report) → report = l'.report

namespace Account

theorem still (l : CounterLoop β υ τ) : Account failing [] none l l [] where
  requests := rfl
  enrolled := by simp
  polls := rfl
  failed := rfl
  executed := rfl
  balance := rfl
  going _ := rfl
  reported _ h := by cases h

theorem append {opening : List Bytes} {l'' : CounterLoop β υ τ}
    (h : Account failing opening none l l' sends) (h' : Account failing [] result l' l'' rest) :
    Account failing opening result l l'' (sends ++ rest) := by
  -- before the rest, nothing was aborted
  have hlast : (sends ++ rest).getLast?.any (·.aborts failing) =
      rest.getLast?.any (·.aborts failing) := by
    rw [List.getLast?_append]
    cases rest.getLast? with
    | some s => rfl
    | none => exact h.going rfl
  have hfirst := h.balance
  rw [h.going rfl] at hfirst
  constructor
  · rw [List.map_append, h.requests, h'.requests, List.filter_append, List.flatMap_append,
      List.nil_append, List.append_assoc]
  · rw [h'.enrolled, h.enrolled, List.any_append, Bool.or_assoc]
  · rw [h'.polls, h.polls, List.countP_append, Nat.add_assoc]
  · rw [h'.failed, h.failed, List.countP_append, Nat.add_assoc]
  · rw [h'.executed, h.executed, List.countP_append, List.countP_append]
    omega
  · simp only [List.countP_append, hlast, hfirst, h'.balance, Bool.false_eq_true, if_false]
    omega
  · exact fun hr => hlast.trans (h'.going hr)
  · exact h'.reported

theorem of_poll {o : Option Order} (hb : l.asked.pollByte?.isSome = o.isSome)
    (ho : ∀ o', l.asked.asks failing o' = (o == some o'))
    (hx : o = some .execute → l.asked.persists l.engine.nextState = false)
    (hr : l'.report = { l.report with
      polls := l.report.polls + if o.isSome then 1 else 0
      failed := l.report.failed + if o = some .refused then 1 else 0
      executed := l.report.executed + if o = some .clear ∧ l.asked.persists [] then 1 else 0 })
    (hg : result = none → o ≠ some .execute ∧ (o = some .clear → l.asked.persists [] = true))
    (hrep : ∀ report, result = some (.ok report) → report = l'.report) :
    Account failing [] result l l' [l.asked] := by
  -- an order to execute ends with its poll only where the new state is refused
  have hlost : (o == some .execute && l.asked.persists l.asked.loop.engine.nextState) = false := by
    cases hp : o == some .execute with
    | false => rfl
    | true => exact hx (beq_iff_eq.1 hp)
  have hfollow : l.asked.followUp failing = [] := by
    simp only [Sending.followUp, ho, hlost, Bool.false_eq_true, if_false]
  have haborts : l.asked.aborts failing =
      (o == some .clear && !l.asked.persists [] || o == some .execute) := by
    simp only [Sending.aborts, ho, isConfirmation_asked, Bool.false_and, Bool.or_false]
    cases hp : o == some .execute with
    | false => rfl
    | true =>
      rw [hp, Bool.true_and] at hlost
      rw [hlost]
      rfl
  constructor
  · simp [hfollow]
    rfl
  · simp [hr]
  · simp [hr, hb]
  · simp [hr, ho]
  · simp [hr, ho, Sending.clears, Sending.confirms]
  · simp only [List.getLast?_singleton, Option.any_some, haborts, List.countP_singleton, hb, ho,
      Sending.clears, Sending.confirms, isConfirmation_asked]
    rcases o with _ | _ | _ | _ | _ <;> cases l.asked.persists [] <;> rfl
  · intro h
    obtain ⟨hne, hc⟩ := hg h
    simp only [List.getLast?_singleton, Option.any_some, haborts]
    rcases o with _ | _ | _ | _ | _ <;> simp_all
  · exact hrep

theorem of_confirmation {c : Command} (hb : l.asked.pollByte? = some c.id)
    (ho : ∀ o, l.asked.asks failing o = (some .execute == some o))
    (hp : l.asked.persists l.engine.nextState = true)
    (hr : l'.report = { l.report with
      polls := l.report.polls + 1
      executed := l.report.executed + if (l.confirming c).outcome.answers then 1 else 0 })
    (hg : result = none → (l.confirming c).outcome.answers = true)
    (hrep : ∀ report, result = some (.ok report) → report = l'.report) :
    Account failing [] result l l' [l.asked, l.confirming c] := by
  have hnext : l.asked.loop.engine.nextState = l.engine.nextState := rfl
  have hfollow : l.asked.followUp failing = [CounterEngine.confirmation c] := by
    simp only [Sending.followUp, ho, hnext, hp, hb]
    rfl
  have haborts : (l.confirming c).aborts failing = !(l.confirming c).outcome.answers := by
    simp [Sending.aborts]
  constructor
  · simp [hfollow]
    exact ⟨rfl, rfl⟩
  · simp [hr]
  · simp [hr, hb]
  · simp [hr, ho]
  · simp [hr, ho, Sending.clears, Sending.confirms]
  · simp [hb, ho, haborts, Sending.clears, Sending.confirms]
    cases (l.confirming c).outcome.answers <;> rfl
  · intro h
    simp [haborts, hg h]
  · exact hrep

end Account

theorem Round.account (h : Round l result l' sends) (hl : l.engine.failing = failing) :
    Account failing [] result l l' sends := by
  subst hl
  -- a round ends with its poll or with the confirmation of the poll's command
  cases h with
  | pollExit h =>
    exact .of_poll (o := none) (by rw [pollByte?_of_error h]; rfl) (asks_of_error h) (by simp) rfl
      (by simp) (by rintro report ⟨rfl⟩; rfl)
  | pollFailed h he =>
    exact .of_poll (o := none) (by rw [pollByte?_of_error h]; rfl) (asks_of_error h) (by simp) rfl
      (by simp) (by simp)
  | idle h hc =>
    exact .of_poll (o := some .nothing) (pollByte?_isSome h) (asks_of_response h hc rfl) (by simp) rfl
      (by simp) (by simp)
  | cleared h hc hp =>
    have hp' : l.asked.persists [] = true := hp
    exact .of_poll (o := some .clear) (pollByte?_isSome h) (asks_of_response h hc rfl) (by simp)
      (by simp [hp']; rfl) (by simp [hp']) (by simp)
  | clearLost h hc hp =>
    have hp' : l.asked.persists [] = false := hp
    exact .of_poll (o := some .clear) (pollByte?_isSome h) (asks_of_response h hc rfl) (by simp)
      (by simp [hp']; rfl) (by simp) (by simp)
  | refused h hc hn hx hf =>
    have ho := asks_of_response h hc (Order.ofCommand_of_mem hn hx hf)
    exact .of_poll (o := some .refused) (pollByte?_isSome h) ho (by simp) rfl (by simp) (by simp)
  | lost h hc hn hx hf hp =>
    have ho := asks_of_response h hc (Order.ofCommand_of_not_mem hn hx hf)
    exact .of_poll (o := some .execute) (pollByte?_isSome h) ho (fun _ => hp) rfl (by simp) (by simp)
  | confirmed h hc hn hx hf hp ha =>
    have ho := asks_of_response h hc (Order.ofCommand_of_not_mem hn hx hf)
    have hans := SendOutcome.answers_of_result ha
    exact .of_confirmation (pollByte?_of_command h hc hn) ho hp (by rw [if_pos hans]; rfl)
      (fun _ => hans) (by simp)
  | confirmExit h hc hn hx hf hp ha =>
    have ho := asks_of_response h hc (Order.ofCommand_of_not_mem hn hx hf)
    have hans := answers_of_failure ha
    exact .of_confirmation (pollByte?_of_command h hc hn) ho hp (by rw [hans]; rfl) (by simp)
      (by rintro report ⟨rfl⟩; rfl)
  | confirmFailed h hc hn hx hf hp ha he =>
    have ho := asks_of_response h hc (Order.ofCommand_of_not_mem hn hx hf)
    have hans := answers_of_failure ha
    exact .of_confirmation (pollByte?_of_command h hc hn) ho hp (by rw [hans]; rfl) (by simp)
      (by simp)

theorem account_cyclesUpTo (bound : Nat) (l : CounterLoop β υ τ) :
    Account l.engine.failing [] (cyclesUpTo bound l).1 l (cyclesUpTo bound l).2
      (cyclesSendsUpTo bound l) := by
  apply rounds_induction (motive := fun l result l' sends =>
    Account l.engine.failing [] result l l' sends)
  · exact fun l => .still l
  · exact fun l ending l' sends hround => hround.account rfl
  · intro l l' sends result l'' rest hround hrest
    rw [hround.failing_eq] at hrest
    exact (hround.account rfl).append hrest

omit [Transport τ] [MountBackend β] [StateRecorder υ] in
/-- Between the two loops, nothing has happened to the engine or to the storage. -/
def Untouched (l l' : CounterLoop β υ τ) : Prop :=
  l'.engine = l.engine ∧ l'.session.storage = l.session.storage

/-- What an idle poll leaves to the send after it, or to the end of its part of a run. -/
structure Idles (failing : List Command) (result : Option Ending) (l' : CounterLoop β υ τ)
    (sends : List (Sending CounterEngine β υ τ)) : Prop where
  between : sends.IsChain fun s s' => s.isIdle failing = true → Untouched s.loop s'.loop
  atEnd : ∀ s ∈ sends.getLast?, s.isIdle failing = true → result = none ∧ Untouched s.loop l'

omit [MountBackend β] [StateRecorder υ] in
theorem Idles.append {l'' : CounterLoop β υ τ} (h : Idles failing none l' sends)
    (h' : Idles failing result l'' rest) (hs : ∀ s ∈ rest.head?, Untouched l' s.loop)
    (he : rest = [] → result = none ∧ l'' = l') : Idles failing result l'' (sends ++ rest) where
  between := by
    refine List.isChain_append.2 ⟨h.between, h'.between, fun s hlast s' hhead hidle => ?_⟩
    obtain ⟨-, hengine, hstorage⟩ := h.atEnd s hlast hidle
    obtain ⟨hengine', hstorage'⟩ := hs s' hhead
    exact ⟨hengine'.trans hengine, hstorage'.trans hstorage⟩
  atEnd s hlast hidle := by
    cases rest with
    | nil =>
      obtain ⟨rfl, rfl⟩ := he rfl
      rw [List.append_nil] at hlast
      exact h.atEnd s hlast hidle
    | cons s' rest =>
      rw [List.getLast?_append, List.getLast?_cons, Option.some_or] at hlast
      exact h'.atEnd s (by rw [List.getLast?_cons]; exact hlast) hidle

omit [MountBackend β] [StateRecorder υ] in
theorem Idles.of_poll (h : l.asked.isIdle failing = true → result = none ∧ Untouched l l') :
    Idles failing result l' [l.asked] where
  between := List.isChain_singleton _
  atEnd s hs hidle := by
    obtain rfl : l.asked = s := Option.some.inj hs
    exact h hidle

theorem Idles.of_confirmation {c : Command} (h : l.asked.isIdle failing = false) :
    Idles failing result l' [l.asked, l.confirming c] where
  between := by
    refine List.isChain_pair.2 fun hidle => ?_
    rw [h] at hidle
    cases hidle
  atEnd s hs hidle := by
    obtain rfl : l.confirming c = s := Option.some.inj hs
    simp [Sending.isIdle] at hidle

theorem Round.idles (h : Round l result l' sends) (hl : l.engine.failing = failing) :
    Idles failing result l' sends := by
  subst hl
  -- a poll that brings the order to clear or to execute is not idle
  have hbusy {response : Bytes} {c : Command} (h : l.asked.outcome.result = .ok response)
      (hc : Command.carriedBy response = c)
      (ho : Order.ofCommand l.engine.failing c = .clear ∨
        Order.ofCommand l.engine.failing c = .execute) :
      l.asked.isIdle l.engine.failing = false := by
    rcases ho with ho | ho
    all_goals
      rw [Sending.isIdle, asks_of_response h hc ho, asks_of_response h hc ho]
      rfl
  cases h with
  | pollExit h | pollFailed h _ =>
    refine .of_poll fun hidle => ?_
    rw [Sending.isIdle, asks_of_error h, asks_of_error h] at hidle
    cases hidle
  | idle _ _ | refused _ _ _ _ _ => exact .of_poll fun _ => ⟨rfl, rfl, rfl⟩
  | cleared h hc hp | clearLost h hc hp =>
    refine .of_poll fun hidle => ?_
    rw [hbusy h hc (Or.inl rfl)] at hidle
    cases hidle
  | lost h hc hn hx hf hp =>
    refine .of_poll fun hidle => ?_
    rw [hbusy h hc (Or.inr (Order.ofCommand_of_not_mem hn hx hf))] at hidle
    cases hidle
  | confirmed h hc hn hx hf _ _ | confirmExit h hc hn hx hf _ _ | confirmFailed h hc hn hx hf _ _ _ =>
    exact .of_confirmation (hbusy h hc (Or.inr (Order.ofCommand_of_not_mem hn hx hf)))

theorem Round.head?_eq (h : Round l result l' sends) : sends.head? = some l.asked := by
  cases h <;> rfl

theorem idles_cyclesUpTo (bound : Nat) (l : CounterLoop β υ τ) :
    let sends := cyclesSendsUpTo bound l
    Idles l.engine.failing (cyclesUpTo bound l).1 (cyclesUpTo bound l).2 sends ∧
      (∀ s ∈ sends.head?, Untouched l s.loop) ∧
      (sends = [] → (cyclesUpTo bound l).1 = none ∧ (cyclesUpTo bound l).2 = l) := by
  apply rounds_induction (motive := fun l result l' sends =>
    Idles l.engine.failing result l' sends ∧ (∀ s ∈ sends.head?, Untouched l s.loop) ∧
      (sends = [] → result = none ∧ l' = l))
  · exact fun l => ⟨⟨.nil, by simp⟩, by simp, fun _ => ⟨rfl, rfl⟩⟩
  · intro l ending l' sends hround
    refine ⟨hround.idles rfl, ?_, ?_⟩
    · rw [hround.head?_eq]
      rintro s ⟨rfl⟩
      exact ⟨rfl, rfl⟩
    · rintro rfl
      cases hround
  · intro l l' sends result l'' rest hround ⟨hrest, hhead, hnil⟩
    rw [hround.failing_eq] at hrest
    refine ⟨(hround.idles rfl).append hrest hhead hnil, ?_, ?_⟩
    · rw [List.head?_append, hround.head?_eq]
      rintro s ⟨rfl⟩
      exact ⟨rfl, rfl⟩
    · intro h
      rw [(List.append_eq_nil_iff.1 h).1] at hround
      cases hround

section Enrolling

variable {storage : Storage β υ}

theorem enrolls_enrolling : (l.enrolling storage).enrolls =
    (l.enrolling storage).outcome.result.toOption.any (l.enrolling storage).persists := by
  have h : (l.enrolling storage).request == CounterEngine.enrollRequest := beq_self_eq_true _
  rw [Sending.enrolls, h, Bool.true_and]

theorem Account.of_enrollment (hr : l'.report =
      { l.report with enrolled := l.report.enrolled || (l.enrolling storage).enrolls })
    (hrep : ∀ report, result = some (.ok report) → report = l'.report) :
    Account failing [CounterEngine.enrollRequest] result l l' [l.enrolling storage] := by
  constructor
  · simp
    rfl
  · simp [hr]
  · simp [hr]
  · simp [hr]
  · simp [hr, Sending.clears, Sending.confirms]
  · simp [Sending.clears, Sending.confirms, Sending.aborts]
  · simp [Sending.aborts]
  · exact hrep

omit [MountBackend β] [StateRecorder υ] in
theorem Idles.of_enrollment : Idles failing result l' [l.enrolling storage] where
  between := List.isChain_singleton _
  atEnd s hs hidle := by
    obtain rfl : l.enrolling storage = s := Option.some.inj hs
    simp [Sending.isIdle] at hidle

end Enrolling

def enrollment (stored : Except PersistenceError (Option Bytes)) : List Bytes :=
  match stored with
  | .ok none => [CounterEngine.enrollRequest]
  | _ => []

theorem Opening.account (h : Opening l result l' sends) (hl : l.report = {}) :
    Account failing (enrollment l.session.storage.load.1) result l l' sends := by
  have hnew : l.report.enrolled = false := by rw [hl]
  have hnone {storage : Storage β υ} {e : BridgeError}
      (ha : (l.enrolling storage).outcome.result = .error e) :
      (l.enrolling storage).enrolls = false := by
    rw [enrolls_enrolling, ha]
    rfl
  have hsome {storage : Storage β υ} {state : Bytes}
      (ha : (l.enrolling storage).outcome.result = .ok state) :
      (l.enrolling storage).enrolls = (storage.persist state).1 := by
    rw [enrolls_enrolling, ha]
    rfl
  cases h with
  | unread h =>
    rw [h]
    exact ⟨rfl, by simp, rfl, rfl, rfl, rfl, by simp, by simp⟩
  | restored h =>
    rw [h]
    exact ⟨rfl, by simp [hnew], rfl, rfl, rfl, rfl, by simp, by simp⟩
  | enrollExit h ha =>
    rw [h]
    exact .of_enrollment (by rw [hnone ha, Bool.or_false]; rfl) (by rintro report ⟨rfl⟩; rfl)
  | enrollFailed h ha he =>
    rw [h]
    exact .of_enrollment (by rw [hnone ha, Bool.or_false]; rfl) (by simp)
  | enrolled h ha hp =>
    rw [h]
    exact .of_enrollment (by rw [hsome ha, hp, Bool.or_true]; rfl) (by simp)
  | enrollLost h ha hp =>
    rw [h]
    exact .of_enrollment (by rw [hsome ha, hp, Bool.or_false]; rfl) (by simp)

theorem Opening.idles (h : Opening l result l' sends) : Idles failing result l' sends := by
  cases h with
  | unread _ | restored _ => exact ⟨.nil, by simp⟩
  | enrollExit _ _ | enrollFailed _ _ _ | enrolled _ _ _ | enrollLost _ _ _ => exact .of_enrollment

theorem Opening.countP_isPoll (h : Opening l result l' sends) : sends.countP Sending.isPoll = 0 := by
  cases h <;> simp

theorem Round.countP_isPoll (h : Round l result l' sends) : sends.countP Sending.isPoll = 1 := by
  cases h <;> simp

theorem countP_isPoll_cyclesUpTo (bound : Nat) (l : CounterLoop β υ τ)
    (h : (cyclesUpTo bound l).1 = none) :
    (cyclesSendsUpTo bound l).countP Sending.isPoll = bound := by
  induction bound generalizing l with
  | zero => rfl
  | succ bound ih =>
    have hround := l.cycle_round
    unfold cyclesUpTo at h
    unfold cyclesSendsUpTo
    rcases hc : l.cycle with ⟨_ | ending, l'⟩ <;> rw [hc] at h hround
    · rw [List.countP_append, ih l' h, hround.countP_isPoll, Nat.add_comm]
    · cases h

/-- The requests of a run are the enrollment, if no state is stored, and then polls, of which those
that bring a command to execute are each followed by its confirmation once the new state is
persisted. A poll that brings no command or a refused one leaves the engine and the storage as they
are, and the run goes on. The report counts the sends: every answered poll brought nothing to do, or
its command was refused or executed, but for a last one that came to nothing. -/
theorem trace_and_report (session : Session β υ τ) (engine : CounterEngine) (options : LoopOptions)
    (bound : Nat) :
    let l := unstarted session engine options
    let sends := sendsUpTo bound l
    let result := (runUpTo bound l).1
    let l' := (runUpTo bound l).2
    let failing := engine.failing
    l.Carries sends l' ∧
    sends.map (·.request) = enrollment session.storage.load.1 ++
      (sends.filter Sending.isPoll).flatMap (fun s => CounterEngine.poll :: s.followUp failing) ∧
    (result = none → sends.countP Sending.isPoll = bound) ∧
    (sends.IsChain fun s s' => s.isIdle failing = true → Untouched s.loop s'.loop) ∧
    (∀ s, sends.getLast? = some s → s.isIdle failing = true → result = none ∧ Untouched s.loop l') ∧
    (∀ report, result = some (.ok report) → report = l'.report) ∧
    (l'.report.enrolled = true ↔ ∃ s ∈ sends, s.enrolls = true) ∧
    l'.report.polls = sends.countP (·.pollByte?.isSome) ∧
    l'.report.failed = sends.countP (·.asks failing .refused) ∧
    l'.report.executed = sends.countP (·.clears failing) + sends.countP Sending.confirms ∧
    l'.report.polls = sends.countP (·.asks failing .nothing) + l'.report.failed +
      l'.report.executed + if sends.getLast?.any (·.aborts failing) then 1 else 0 := by
  intro l sends result l' failing
  -- one induction over the run carries the trace, the idle polls and the number of polls
  have hrun : Account engine.failing (enrollment session.storage.load.1) (runUpTo bound l).1 l
        (runUpTo bound l).2 sends ∧
      Idles engine.failing (runUpTo bound l).1 (runUpTo bound l).2 sends ∧
      ((runUpTo bound l).1 = none → sends.countP Sending.isPoll = bound) := by
    apply run_cases (motive := fun result l' sends =>
      Account engine.failing (enrollment session.storage.load.1) result l l' sends ∧
        Idles engine.failing result l' sends ∧
        (result = none → sends.countP Sending.isPoll = bound))
    · exact fun ending l' sends hopen => ⟨hopen.account rfl, hopen.idles, by simp⟩
    · intro l' sends hopen
      have hrest := account_cyclesUpTo bound l'
      obtain ⟨hidles, hhead, hnil⟩ := idles_cyclesUpTo bound l'
      rw [hopen.failing_eq] at hrest hidles
      refine ⟨(hopen.account rfl).append hrest, hopen.idles.append hidles hhead hnil, ?_⟩
      intro hgoing
      rw [List.countP_append, hopen.countP_isPoll, countP_isPoll_cyclesUpTo bound l' hgoing,
        Nat.zero_add]
  obtain ⟨haccount, hidles, hbound⟩ := hrun
  have hpolls : l'.report.polls = sends.countP (·.pollByte?.isSome) :=
    haccount.polls.trans (Nat.zero_add _)
  have hfailed : l'.report.failed = sends.countP (·.asks failing .refused) :=
    haccount.failed.trans (Nat.zero_add _)
  have hexecuted : l'.report.executed =
      sends.countP (·.clears failing) + sends.countP Sending.confirms :=
    haccount.executed.trans (congrArg (· + _) (Nat.zero_add _))
  refine ⟨l.carries_runUpTo bound, haccount.requests, hbound, hidles.between,
    fun s hs => hidles.atEnd s hs, haccount.reported, ?_, hpolls, hfailed, hexecuted, ?_⟩
  · rw [haccount.enrolled.trans (Bool.false_or _), List.any_eq_true]
  · rw [hpolls, hfailed, hexecuted, ← Nat.add_assoc]
    exact haccount.balance

end CounterLoop

end SensorLink
