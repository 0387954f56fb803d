import SensorLink.Proofs.Loop.Counter
import SensorLink.Proofs.Storage.Mounting

namespace SensorLink

namespace CounterLoop

open CommandLoop

variable {β υ τ : Type}

/-- The storage holds the state of the engine, and no mount is left before it can be read. -/
structure InStep (l : CounterLoop β υ τ) : Prop where
  ready : l.session.storage.Ready
  held : l.session.storage.held = .ok l.engine.state

/-- What the sends of a run and its end show of the storage. -/
structure Persisted (result : Option Ending) (l' : CounterLoop β υ τ)
    (sends : List (Sending CounterEngine β υ τ)) : Prop where
  atSends : ∀ s ∈ sends, InStep s.loop
  atEnd : (∀ e, result ≠ some (.error (.persistence e))) →
    result ≠ some (.error .stateNotPersisted) → l'.InStep
  atLoss : result = some (.error .stateNotPersisted) → l'.session.storage.Ready ∧
    ∃ s, sends.getLast? = some s ∧ l'.session.storage.held = s.loop.session.storage.held

namespace Persisted

variable {result : Option Ending} {l' : CounterLoop β υ τ}
  {sends rest : List (Sending CounterEngine β υ τ)}

theorem of_inStep (hs : ∀ s ∈ sends, InStep s.loop)
    (hr : result ≠ some (.error .stateNotPersisted)) (h : l'.InStep) :
    Persisted result l' sends where
  atSends := hs
  atEnd _ _ := h
  atLoss he := absurd he hr

theorem append (hs : ∀ s ∈ sends, InStep s.loop) (h : Persisted result l' rest) :
    Persisted result l' (sends ++ rest) where
  atSends s hm := (List.mem_append.1 hm).elim (hs s) (h.atSends s)
  atEnd := h.atEnd
  atLoss he := by
    obtain ⟨hready, s, hlast, hheld⟩ := h.atLoss he
    exact ⟨hready, s, by rw [List.getLast?_append, hlast]; rfl, hheld⟩

end Persisted

variable [MountBackend β]

theorem InStep.load {l : CounterLoop β υ τ} (h : l.InStep) :
    l.session.storage.load.1 = .ok l.engine.state := by
  rw [h.ready.load, h.held]

variable [StateRecorder υ]

theorem length_nextState_lt (e : CounterEngine) :
    e.nextState.length < wordCount Record.lengthWidth := by
  rw [CounterEngine.nextState, length_leBytes]
  decide

theorem content_nextState (e : CounterEngine) : Record.content e.nextState = some e.nextState := by
  have hne : e.nextState ≠ [] := by
    intro h
    have hl : e.nextState.length = 8 := length_leBytes 8 _
    rw [h] at hl
    cases hl
  rw [Record.content, if_neg hne]

theorem inStep_of_stored {l : CounterLoop β υ τ} {state : Bytes} (h : l.session.storage.Ready)
    (he : Record.content state = l.engine.state)
    (hp : (l.session.storage.persist state).1 = true) : (l.stored state).InStep where
  ready := (h.of_persist hp).1
  held := by
    rw [stored]
    exact (h.of_persist hp).2.trans (congrArg _ he)

/-- A refused persist leaves the storage as it was at the last send. -/
theorem persisted_of_refusal {l : CounterLoop β υ τ} {state : Bytes}
    {s : Sending CounterEngine β υ τ} (hs : InStep s.loop)
    (hl : l.session.storage = s.loop.session.storage)
    (hp : (l.session.storage.persist state).1 = false) :
    Persisted (some (.error .stateNotPersisted)) (l.stored state) [s] where
  atSends _ hm := List.mem_singleton.1 hm ▸ hs
  atEnd _ he := absurd rfl he
  atLoss _ := by
    -- a storage that was read at the last send has nothing left to mount
    have hready : l.session.storage.Ready := hl ▸ hs.ready
    exact ⟨(hready.of_refusal hp).1, s, rfl, (hready.of_refusal hp).2.trans (congrArg _ hl)⟩

variable [Transport τ]

theorem Round.persisted {l l' : CounterLoop β υ τ} {result : Option Ending}
    {sends : List (Sending CounterEngine β υ τ)} (h : Round l result l' sends) (hl : l.InStep) :
    Persisted result l' sends := by
  have hpoll : InStep l.asked.loop := ⟨hl.ready, hl.held⟩
  have hasked : ∀ s ∈ [l.asked], InStep s.loop := fun _ hm => List.mem_singleton.1 hm ▸ hpoll
  -- the state that a confirmation is sent from is persisted before
  have hexec : ∀ c, (l.session.storage.persist l.engine.nextState).1 = true →
      (l.executed c).InStep := fun c hp =>
    inStep_of_stored (l := l.answered.bumped c) hl.ready (content_nextState l.engine) hp
  have hboth : ∀ c, (l.executed c).InStep → ∀ s ∈ [l.asked, l.confirming c], InStep s.loop := by
    intro c hc s hm
    rcases List.mem_cons.1 hm with rfl | hm
    · exact hpoll
    · exact List.mem_singleton.1 hm ▸ hc
  cases h with
  | pollExit _ | pollFailed _ _ | idle _ _ | refused _ _ _ _ _ =>
    exact .of_inStep hasked (by simp) ⟨hl.ready, hl.held⟩
  | cleared h hc hp =>
    have hdone : InStep (l.answered.forgotten.stored []) := inStep_of_stored hl.ready rfl hp
    exact .of_inStep hasked (by simp) ⟨hdone.ready, hdone.held⟩
  | clearLost h hc hp => exact persisted_of_refusal (l := l.answered.forgotten) hpoll rfl hp
  | lost h hc hn hx hf hp => exact persisted_of_refusal (l := l.answered.bumped _) hpoll rfl hp
  | @confirmed response answer c h hc hn hx hf hp ha =>
    have hdone := hexec c hp
    exact .of_inStep (hboth _ hdone) (by simp) ⟨hdone.ready, hdone.held⟩
  | @confirmExit response c h hc hn hx hf hp ha =>
    have hdone := hexec c hp
    exact .of_inStep (hboth _ hdone) (by simp) ⟨hdone.ready, hdone.held⟩
  | @confirmFailed response c e h hc hn hx hf hp ha he =>
    have hdone := hexec c hp
    exact .of_inStep (hboth _ hdone) (by simp) ⟨hdone.ready, hdone.held⟩

theorem persisted_cyclesUpTo (bound : Nat) (l : CounterLoop β υ τ) (hl : l.InStep) :
    Persisted (cyclesUpTo bound l).1 (cyclesUpTo bound l).2 (cyclesSendsUpTo bound l) := by
  refine rounds_induction
    (motive := fun l result l' sends => l.InStep → Persisted result l' sends) ?_ ?_ ?_ bound l hl
  · exact fun l hl => .of_inStep (by simp) (by simp) hl
  · exact fun l ending l' sends hround hl => hround.persisted hl
  · intro l l' sends result l'' rest hround hrest hl
    have h := hround.persisted hl
    exact (hrest (h.atEnd (by simp) (by simp))).append h.atSends

theorem Opening.persisted {l l' : CounterLoop β υ τ} {result : Option Ending}
    {sends : List (Sending CounterEngine β υ τ)} (h : Opening l result l' sends)
    (hl : l.engine.state = none) : Persisted result l' sends := by
  -- the enrollment is sent where no state is stored, and the engine has none either
  have henroll : ∀ {storage : Storage β υ}, l.session.storage.load = (.ok none, storage) →
      InStep (l.enrolling storage).loop := by
    intro storage h
    obtain ⟨hready, hheld⟩ := Storage.ready_of_load h
    exact ⟨hready, hheld.trans (congrArg _ hl.symm)⟩
  have hsent : ∀ {storage : Storage β υ}, l.session.storage.load = (.ok none, storage) →
      ∀ s ∈ [l.enrolling storage], InStep s.loop := fun h _ hm =>
    List.mem_singleton.1 hm ▸ henroll h
  cases h with
  | unread h => exact ⟨by simp, fun he => absurd rfl (he _), by simp⟩
  | restored h =>
    obtain ⟨hready, hheld⟩ := Storage.ready_of_load h
    exact .of_inStep (by simp) (by simp) ⟨hready, hheld⟩
  | enrollExit h ha =>
    exact .of_inStep (hsent h) (by simp) ⟨(henroll h).ready, (henroll h).held⟩
  | enrollFailed h ha he =>
    exact .of_inStep (hsent h) (by simp) ⟨(henroll h).ready, (henroll h).held⟩
  | @enrolled storage state h ha hp =>
    have hc : Record.content state = some state :=
      if_neg (SendOutcome.ne_nil_of_result ha)
    have hdone : InStep (l.enrolled storage state) :=
      inStep_of_stored (l := { l.enrollSent storage with engine.state := some state })
        (henroll h).ready hc hp
    exact .of_inStep (hsent h) (by simp) ⟨hdone.ready, hdone.held⟩
  | @enrollLost storage state h ha hp =>
    exact persisted_of_refusal (l := { l.enrollSent storage with engine.state := some state })
      (henroll h) rfl hp

theorem inStep_of_start {l : CounterLoop β υ τ} {enrolled : Bool} {session : Session β υ τ}
    {engine : CounterEngine} (hl : l.engine.state = none)
    (h : l.session.start l.engine = (.ok enrolled, session, engine)) :
    InStep { l with session, engine, report.enrolled := enrolled } := by
  have hopen := l.opened_opening
  rw [opened_of_start h] at hopen
  exact (hopen.persisted hl).atEnd (by simp) (by simp)

/-- Whenever a run sends a request, reading the storage gives the state of the engine. This still
holds when the run ends, unless the storage failed it; a refused persist leaves what was there at the
last send. The sends are all that the bridge carries. -/
theorem load_at_sends (session : Session β υ τ) (engine : CounterEngine) (options : LoopOptions)
    (bound : Nat) :
    let l := unstarted session { engine with state := none } options
    l.Carries (sendsUpTo bound l) (runUpTo bound l).2 ∧
    (∀ s ∈ sendsUpTo bound l, s.loop.session.storage.load.1 = .ok s.loop.engine.state) ∧
    ∀ ending l', runUpTo bound l = (some ending, l') →
      ((∀ e, ending ≠ .error (.persistence e)) → ending ≠ .error .stateNotPersisted →
        l'.session.storage.load.1 = .ok l'.engine.state) ∧
      (ending = .error .stateNotPersisted →
        ∃ s, (sendsUpTo bound l).getLast? = some s ∧
          l'.session.storage.load.1 = s.loop.session.storage.load.1) := by
  intro l
  have h : Persisted (runUpTo bound l).1 (runUpTo bound l).2 (sendsUpTo bound l) := by
    apply run_cases
    · exact fun ending l' sends hopen => hopen.persisted rfl
    · intro l' sends hopen
      have hstart := hopen.persisted rfl
      exact (persisted_cyclesUpTo bound l' (hstart.atEnd (by simp) (by simp))).append
        hstart.atSends
  refine ⟨l.carries_runUpTo bound, fun s hs => (h.atSends s hs).load, fun ending l' hrun => ?_⟩
  rw [hrun] at h
  refine ⟨fun hne hlost => (h.atEnd (fun e he => hne e (Option.some.inj he))
    fun he => hlost (Option.some.inj he)).load, ?_⟩
  rintro rfl
  obtain ⟨hready, s, hlast, hheld⟩ := h.atLoss rfl
  have hs := h.atSends s (List.mem_of_getLast? hlast)
  exact ⟨s, hlast, by rw [hready.load, hs.ready.load, hheld]⟩

end CounterLoop

end SensorLink
