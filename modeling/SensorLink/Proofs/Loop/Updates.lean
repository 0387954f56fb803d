import SensorLink.Proofs.Engine.Advance
import SensorLink.Proofs.Loop.Manager
import SensorLink.Proofs.Loop.Restart
import SensorLink.Proofs.Loop.Trace

namespace SensorLink

namespace Storage

variable {β υ : Type} [MountBackend β] [StateRecorder υ]

/-- However the storage is used, it takes every state that fits a record. -/
def Accepts (s : Storage β υ) : Prop :=
  ∀ s', s.Reachable s' → ∀ state, state.length < wordCount Record.lengthWidth →
    (s'.persist state).1 = true

omit [StateRecorder υ] in
theorem load_snd (s : Storage β υ) : s.load.2 = s.ensureMounted.2 := by
  rw [load_eq]
  rcases s.ensureMounted with ⟨e | ⟨⟩, s'⟩ <;> rfl

theorem Dependable.accepts {s : Storage β υ} (h : s.Dependable) : s.Accepts :=
  fun s' hr => (h s' hr).persists

theorem accepts_kept : CommandLoop.Kept (Accepts : Storage β υ → Prop) where
  load s h s' hr := by
    rw [load_snd] at hr
    exact h s' (Reachable.trans (.mount .refl) hr)
  persist s state h s' hr := h s' (Reachable.trans (.persist .refl state) hr)

end Storage

namespace Sending

open CounterEngine (advance)

variable {β υ τ : Type} [Transport τ] (failing : List Command)

/-- What a send shows of the engine's state: an order to clear leaves none, and a confirmation is
sent from a state that is one step on. -/
def effect (state : Option Bytes) (s : Sending CounterEngine β υ τ) : Option Bytes :=
  if s.asks failing .clear then none
  else if s.isConfirmation then advance state 1
  else state

variable {failing} {before after : List (Sending CounterEngine β υ τ)}
  {s : Sending CounterEngine β υ τ}

theorem foldl_effect_of_no_clear (h : ∀ s ∈ after, s.asks failing .clear = false)
    (state : Option Bytes) :
    after.foldl (effect failing) state = advance state (after.countP isConfirmation) := by
  induction after generalizing state with
  | nil => rfl
  | cons s rest ih =>
    obtain ⟨hs, hrest⟩ := List.forall_mem_cons.1 h
    rw [List.foldl_cons, ih hrest, List.countP_cons, effect, hs]
    cases s.isConfirmation with
    | false => rfl
    | true => exact (CounterEngine.advance_advance state 1 _).trans (by rw [Nat.add_comm]; rfl)

theorem foldl_effect_of_clear (hs : s.asks failing .clear = true)
    (h : ∀ s ∈ after, s.asks failing .clear = false) (state : Option Bytes) :
    (before ++ s :: after).foldl (effect failing) state =
      advance none (after.countP isConfirmation) := by
  rw [List.foldl_append, List.foldl_cons, effect, if_pos hs, foldl_effect_of_no_clear h]

end Sending

namespace CounterLoop

open CommandLoop
open CounterEngine (advance confirmation)

variable {β υ τ : Type} [Transport τ] [MountBackend β] [StateRecorder υ]
  {l l' l'' : CounterLoop β υ τ} {failing : List Command} {result : Option Ending}
  {sends rest : List (Sending CounterEngine β υ τ)}

theorem Round.persists (h : Round l result l' sends) (ha : l.session.storage.Accepts) :
    result ≠ some (.error .stateNotPersisted) := by
  cases h with
  | clearLost h hc hp =>
    rw [ha _ .refl [] (by decide)] at hp
    cases hp
  | lost h hc hn hx hf hp =>
    rw [ha _ .refl _ (length_nextState_lt l.engine)] at hp
    cases hp
  | pollExit _ | pollFailed _ _ | idle _ _ | cleared _ _ _ | refused _ _ _ _ _
  | confirmed _ _ _ _ _ _ _ | confirmExit _ _ _ _ _ _ _ | confirmFailed _ _ _ _ _ _ _ _ => simp

theorem cyclesUpTo_persists (bound : Nat) (l : CounterLoop β υ τ)
    (ha : l.session.storage.Accepts) :
    (cyclesUpTo bound l).1 ≠ some (.error .stateNotPersisted) := by
  refine rounds_induction (motive := fun l result _ _ => l.session.storage.Accepts →
    result ≠ some (.error .stateNotPersisted)) ?_ ?_ ?_ bound l ha
  · exact fun l _ => by simp
  · exact fun l ending l' sends hround => hround.persists
  · intro l l' sends result l'' rest hround ih ha
    have hkept := Storage.accepts_kept.cycle ha
    rw [hround.cycle_eq.1] at hkept
    exact ih hkept

theorem cyclesUpTo_ne_persistence (bound : Nat) (l : CounterLoop β υ τ) (e : PersistenceError) :
    (cyclesUpTo bound l).1 ≠ some (.error (.persistence e)) := by
  apply rounds_induction (motive := fun _ result _ _ => result ≠ some (.error (.persistence e)))
  · exact fun l => by simp
  · exact fun l ending l' sends hround => by cases hround <;> simp
  · exact fun l l' sends result l'' rest hround h => h

/-- A part of a run has changed the engine as its sends tell: in its state, and in the commands that
it executed, one for each confirmation. -/
structure Counted (failing : List Command) (l l' : CounterLoop β υ τ)
    (sends : List (Sending CounterEngine β υ τ)) : Prop where
  state : l'.engine.state = sends.foldl (Sending.effect failing) l.engine.state
  executed : ∃ commands, l'.engine.executed = l.engine.executed ++ commands ∧
    (sends.filter Sending.isConfirmation).map (·.request) = commands.map confirmation

namespace Counted

omit [MountBackend β] [StateRecorder υ] in
theorem append (h : Counted failing l l' sends) (h' : Counted failing l' l'' rest) :
    Counted failing l l'' (sends ++ rest) where
  state := by rw [List.foldl_append, ← h.state, h'.state]
  executed := by
    obtain ⟨commands, hc, hs⟩ := h.executed
    obtain ⟨more, hc', hs'⟩ := h'.executed
    refine ⟨commands ++ more, by rw [hc', hc, List.append_assoc], ?_⟩
    rw [List.filter_append, List.map_append, List.map_append, hs, hs']

omit [MountBackend β] [StateRecorder υ] in
/-- A part of a run that sends no confirmation. -/
theorem of_no_confirmation (hs : ∀ s ∈ sends, s.isConfirmation = false)
    (hx : l'.engine.executed = l.engine.executed)
    (hst : l'.engine.state = sends.foldl (Sending.effect failing) l.engine.state) :
    Counted failing l l' sends where
  state := hst
  executed := by
    have hnone : sends.filter Sending.isConfirmation = [] :=
      List.filter_eq_nil_iff.2 (by simpa using hs)
    exact ⟨[], by rw [hx, List.append_nil], by rw [hnone]; rfl⟩

theorem of_confirmation {c : Command} (ho : l.asked.asks failing .clear = false)
    (hx : l'.engine.executed = l.engine.executed ++ [c])
    (hst : l'.engine.state = some l.engine.nextState) :
    Counted failing l l' [l.asked, l.confirming c] where
  state := by
    rw [hst, ← CounterEngine.advance_one]
    simp [Sending.effect, ho]
  executed := ⟨[c], hx, by simp; rfl⟩

end Counted

theorem Round.counted (h : Round l result l' sends) (hl : l.engine.failing = failing)
    (hr : result ≠ some (.error .stateNotPersisted)) : Counted failing l l' sends := by
  subst hl
  have hpoll (o : Bool) (ho : l.asked.asks l.engine.failing .clear = o)
      (hx : l'.engine.executed = l.engine.executed)
      (hst : l'.engine.state = if o then none else l.engine.state) :
      Counted l.engine.failing l l' [l.asked] :=
    .of_no_confirmation (by simp) hx (by simp [Sending.effect, ho, hst])
  cases h with
  | pollExit h | pollFailed h _ => exact hpoll false (asks_of_error h _) rfl rfl
  | idle h hc => exact hpoll false (asks_of_response h hc rfl _) rfl rfl
  | cleared h hc hp => exact hpoll true (asks_of_response h hc rfl _) rfl rfl
  | refused h hc hn hx hf =>
    exact hpoll false (asks_of_response h hc (Order.ofCommand_of_mem hn hx hf) _) rfl rfl
  | clearLost h hc hp | lost h hc hn hx hf hp => exact absurd rfl hr
  | confirmed h hc hn hx hf hp ha | confirmExit h hc hn hx hf hp ha
  | confirmFailed h hc hn hx hf hp ha he =>
    exact .of_confirmation (asks_of_response h hc (Order.ofCommand_of_not_mem hn hx hf) _) rfl rfl

theorem counted_cyclesUpTo (bound : Nat) (l : CounterLoop β υ τ)
    (hr : (cyclesUpTo bound l).1 ≠ some (.error .stateNotPersisted)) :
    Counted l.engine.failing l (cyclesUpTo bound l).2 (cyclesSendsUpTo bound l) := by
  refine rounds_induction (motive := fun l result l' sends =>
    result ≠ some (.error .stateNotPersisted) → Counted l.engine.failing l l' sends)
    ?_ ?_ ?_ bound l hr
  · exact fun l _ => .of_no_confirmation (by simp) rfl rfl
  · exact fun l ending l' sends hround hr => hround.counted rfl hr
  · intro l l' sends result l'' rest hround hrest hr
    have h' := hrest hr
    rw [hround.failing_eq] at h'
    exact (hround.counted rfl (by simp)).append h'

/-- Where the state comes from that a run starts with. -/
inductive Origin (stored : Except PersistenceError (Option Bytes))
    (sends : List (Sending CounterEngine β υ τ)) : Bool → Bytes → Prop where
  | restored {state : Bytes} (h : stored = .ok (some state)) : Origin stored sends false state
  /-- The enrollment is the first send, and brings the state. -/
  | enrolled {s : Sending CounterEngine β υ τ} {state : Bytes} (h : stored = .ok none)
      (hs : sends.head? = some s) (hr : s.request = CounterEngine.enrollRequest)
      (ha : s.outcome.result = .ok state) : Origin stored sends true state

variable (failing) in
theorem Opening.origin (h : Opening l none l' sends) (rest : List (Sending CounterEngine β υ τ)) :
    ∃ state, Origin l.session.storage.load.1 (sends ++ rest) l'.report.enrolled state ∧
      Counted failing { l with engine.state := some state } l' sends := by
  cases h with
  | @restored state storage h =>
    exact ⟨state, .restored (by rw [h]), .of_no_confirmation (by simp) rfl rfl⟩
  | @enrolled storage state h ha hp =>
    exact ⟨state, .enrolled (by rw [h]) rfl rfl ha,
      .of_no_confirmation (by simp) rfl (by simp [Sending.effect]; rfl)⟩

/-- No state change is lost, and none is made twice. A run that has started loses no state over a
storage that takes every state. However a run goes on that loses none, what is stored is the state that
it started from, one step further for each confirmation sent; after an order to clear the state, it is
as many steps from no state as confirmations were sent since. The commands executed are those
confirmed, in order. -/
theorem updates_counted (session : Session β υ τ) (failing : List Command) (options : LoopOptions)
    (bound : Nat) {enrolled : Bool} {session' : Session β υ τ} {engine' : CounterEngine}
    (hstart : session.start ({ failing } : CounterEngine) = (.ok enrolled, session', engine')) :
    let l := unstarted session { failing } options
    let sends := sendsUpTo bound l
    let l' := (runUpTo bound l).2
    ∃ state, Origin session.storage.load.1 sends enrolled state ∧ l.Carries sends l' ∧
      (session.storage.Accepts → (runUpTo bound l).1 ≠ some (.error .stateNotPersisted)) ∧
      ((runUpTo bound l).1 ≠ some (.error .stateNotPersisted) →
        ((∀ s ∈ sends, s.asks failing .clear = false) →
          l'.session.storage.load.1 =
            .ok (advance (some state) (sends.countP Sending.isConfirmation))) ∧
        (∀ before s after, sends = before ++ s :: after → s.asks failing .clear = true →
          (∀ s ∈ after, s.asks failing .clear = false) →
          l'.session.storage.load.1 =
            .ok (advance none (after.countP Sending.isConfirmation))) ∧
        (sends.filter Sending.isConfirmation).map (·.request) =
          l'.engine.executed.map confirmation) := by
  intro l sends l'
  obtain ⟨l₁, hl₁⟩ : ∃ l₁ : CounterLoop β υ τ, l₁ =
      { l with session := session', engine := engine', report.enrolled := enrolled } := ⟨_, rfl⟩
  have hopened : l.opened = (none, l₁) := by rw [hl₁, opened_of_start hstart]
  have hstep : l₁.InStep := by
    rw [hl₁]
    exact inStep_of_start rfl hstart
  have hsends : sends = l.startSends ++ cyclesSendsUpTo bound l₁ := by
    rw [show sends = _ from sendsUpTo_eq bound l, hopened]
  have hrun : runUpTo bound l = cyclesUpTo bound l₁ := by rw [runUpTo_eq, hopened]
  have hopen := l.opened_opening
  rw [hopened] at hopen
  obtain ⟨state, horigin, hfirst⟩ := hopen.origin failing (cyclesSendsUpTo bound l₁)
  rw [← hsends, hl₁] at horigin
  refine ⟨state, horigin, l.carries_runUpTo bound, fun ha => ?_, fun hr => ?_⟩
  · have hkept := Storage.accepts_kept.start ha ({ failing } : CounterEngine)
    rw [hstart] at hkept
    rw [hrun]
    exact cyclesUpTo_persists bound l₁ (hl₁ ▸ hkept)
  · have hfailing : l₁.engine.failing = failing := hopen.failing_eq
    have hl' : l' = (cyclesUpTo bound l₁).2 := congrArg Prod.snd hrun
    rw [hrun] at hr
    -- the rounds go on from what the start has left, and the storage keeps up with the engine
    have hrest := counted_cyclesUpTo bound l₁ hr
    rw [hfailing, ← hl'] at hrest
    have hcounted := hfirst.append hrest
    rw [← hsends] at hcounted
    have hstored : l'.session.storage.load.1 = .ok l'.engine.state := by
      rw [hl']
      exact ((persisted_cyclesUpTo bound l₁ hstep).atEnd (cyclesUpTo_ne_persistence bound l₁) hr).load
    rw [hstored, hcounted.state]
    refine ⟨fun hno => ?_, fun before s after hsplit hs hno => ?_, ?_⟩
    · rw [Sending.foldl_effect_of_no_clear hno]
    · rw [hsplit, Sending.foldl_effect_of_clear hs hno]
    · obtain ⟨commands, hexecuted, hconfirmed⟩ := hcounted.executed
      rw [hexecuted]
      exact hconfirmed

/-- A run that enrolls, confirms one command, is told to clear the state and confirms one more. -/
theorem updates_counted_after_clear :
    (begun.session.start begun.engine).1 = .ok true ∧ begun.session.storage.Accepts ∧
      (sendsUpTo 8 begun).countP Sending.isConfirmation = 2 ∧
      (runUpTo 8 begun).2.session.storage.load.1 = .ok (some [1, 0, 0, 0, 0, 0, 0, 0]) ∧
      ((sendsUpTo 8 begun).filter Sending.isConfirmation).map (·.request) =
        (runUpTo 8 begun).2.engine.executed.map confirmation := by
  have hstart : (begun.session.start begun.engine).1 = .ok true := by decide +kernel
  have hprepared : begun.session.storage = (Storage.make dataDirectory dataFiles).ensureMounted.2 :=
    congrArg Prod.snd (Storage.OpenedBy.make dataDirectory_prepare).prepare_eq
  have haccepts : begun.session.storage.Accepts := by
    rw [hprepared]
    exact (dataDirectory_dependable.of_reachable (.mount .refl)).accepts
  obtain ⟨state, -, -, hresult, hcounts⟩ :=
    updates_counted begun.session [.subscribeToAnnouncementLink] {} 8 (Prod.ext hstart rfl)
  obtain ⟨-, hcleared, hconfirmed⟩ := hcounts (hresult haccepts)
  -- the fifth send brings the order to clear
  have hlen : 4 < (sendsUpTo 8 begun).length := by decide +kernel
  have hclear : (sendsUpTo 8 begun)[4].asks [.subscribeToAnnouncementLink] .clear = true := by
    decide +kernel +revert
  have hsplit : sendsUpTo 8 begun =
      (sendsUpTo 8 begun).take 4 ++ (sendsUpTo 8 begun)[4] :: (sendsUpTo 8 begun).drop 5 := by
    rw [List.getElem_cons_drop, List.take_append_drop]
  have hcount : ((sendsUpTo 8 begun).drop 5).countP Sending.isConfirmation = 1 := by decide +kernel
  have hstored := hcleared _ _ _ hsplit hclear (by decide +kernel)
  rw [hcount] at hstored
  exact ⟨hstart, haccepts, by decide +kernel, hstored, hconfirmed⟩

end CounterLoop

end SensorLink
