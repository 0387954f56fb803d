import SensorLink.Double.Script
import SensorLink.Proofs.Engine.Advance
import SensorLink.Proofs.Loop.Stored

namespace SensorLink

/-- A session with the counter engine that sends messages over it. -/
structure Messenger (β υ τ : Type) where
  session : Session β υ τ
  engine : CounterEngine

namespace Messenger

open CounterEngine (advance advance_advance counter counter_advance)

variable {β υ τ : Type}

def stored [MountBackend β] (m : Messenger β υ τ) : Except PersistenceError (Option Bytes) :=
  m.session.storage.load.1

def accepts [MountBackend β] [StateRecorder υ] (m : Messenger β υ τ) : Bool :=
  (m.session.storage.persist m.engine.nextState).1

variable [Transport τ]

def exchange (m : Messenger β υ τ) (payload : Bytes) : Except BridgeError Bytes :=
  (m.session.bridge.request payload).1

def carried (m : Messenger β υ τ) (payload : Bytes) : Messenger β υ τ :=
  { m with session := (m.session.request payload).2 }

variable [MountBackend β] [StateRecorder υ]

/-- The message is answered, and the persist of the next state has been tried. -/
def answered (m : Messenger β υ τ) (payload : Bytes) : Messenger β υ τ where
  session := { (m.carried payload).session with
    storage := (m.session.storage.persist m.engine.nextState).2 }
  engine := { m.engine with
    messages := m.engine.messages ++ [payload], state := some m.engine.nextState }

def send (m : Messenger β υ τ) (payload : Bytes) : Except SensorError Unit × Messenger β υ τ :=
  let (result, session, engine) := m.session.sendMessage m.engine payload
  (result, ⟨session, engine⟩)

def sendAll (m : Messenger β υ τ) (payloads : List Bytes) : Messenger β υ τ :=
  payloads.foldl (fun m payload => (m.send payload).2) m

/-- What a call comes to: its result, and the messenger after it. -/
inductive Outcome (m : Messenger β υ τ) (payload : Bytes) :
    Except SensorError Unit → Messenger β υ τ → Prop where
  | failed {e : BridgeError} (h : m.exchange payload = .error e) :
      Outcome m payload (.error (.engine (.bridge e))) (m.carried payload)
  | refused {answer : Bytes} (h : m.exchange payload = .ok answer) (hp : m.accepts = false) :
      Outcome m payload (.error .stateNotPersisted) (m.answered payload)
  | persisted {answer : Bytes} (h : m.exchange payload = .ok answer) (hp : m.accepts = true) :
      Outcome m payload (.ok ()) (m.answered payload)

theorem send_eq (m : Messenger β υ τ) (payload : Bytes) :
    m.send payload =
      match m.exchange payload with
      | .error e => (.error (.engine (.bridge e)), m.carried payload)
      | .ok _ => (if m.accepts then .ok () else .error .stateNotPersisted, m.answered payload) := by
  have h : (m.session.bridge.request payload).1 = m.exchange payload := rfl
  simp only [send, Session.sendMessage, Engine.sendMessage, Dialogue.run, h]
  cases m.exchange payload <;> rfl

theorem send_outcome (m : Messenger β υ τ) (payload : Bytes) :
    Outcome m payload (m.send payload).1 (m.send payload).2 := by
  rw [send_eq]
  cases h : m.exchange payload with
  | error e => exact .failed h
  | ok answer =>
    cases hp : m.accepts with
    | true => exact .persisted h hp
    | false => exact .refused h hp

/-- The engine is some steps ahead of the state that the storage holds. -/
structure Ahead (m : Messenger β υ τ) (kept : Option Bytes) (n : Nat) : Prop where
  ready : m.session.storage.Ready
  held : m.session.storage.held = .ok kept
  state : m.engine.state = advance kept n

namespace Ahead

variable {m : Messenger β υ τ} {kept : Option Bytes} {n : Nat}

omit [Transport τ] [StateRecorder υ] in
theorem stored_eq (h : m.Ahead kept n) : m.stored = .ok kept := by
  rw [stored, h.ready.load, h.held]

omit [MountBackend β] [StateRecorder υ] in
theorem carried (h : m.Ahead kept n) (payload : Bytes) : (m.carried payload).Ahead kept n :=
  ⟨h.ready, h.held, h.state⟩

theorem refused (h : m.Ahead kept n) (payload : Bytes) (hp : m.accepts = false) :
    (m.answered payload).Ahead kept (n + 1) := by
  obtain ⟨hready, hheld⟩ := h.ready.of_refusal hp
  refine ⟨hready, hheld.trans h.held, ?_⟩
  rw [← advance_advance, ← h.state]
  rfl

theorem persisted (h : m.Ahead kept n) (payload : Bytes) (hp : m.accepts = true) :
    (m.answered payload).Ahead (m.answered payload).engine.state 0 := by
  obtain ⟨hready, hheld⟩ := h.ready.of_persist hp
  exact ⟨hready, hheld.trans (congrArg _ (CounterLoop.content_nextState m.engine)), rfl⟩

end Ahead

/-- A call to send a message, with the messenger as it stands at that moment. -/
structure Call (β υ τ : Type) where
  before : Messenger β υ τ
  payload : Bytes

namespace Call

def result (c : Call β υ τ) : Except SensorError Unit := (c.before.send c.payload).1

def after (c : Call β υ τ) : Messenger β υ τ := (c.before.send c.payload).2

def exchange (c : Call β υ τ) : Except BridgeError Bytes := c.before.exchange c.payload

def isAnswered (c : Call β υ τ) : Bool := c.exchange.isOk

end Call

def calls (m : Messenger β υ τ) : List Bytes → List (Call β υ τ)
  | [] => []
  | payload :: rest => ⟨m, payload⟩ :: (m.send payload).2.calls rest

theorem calls_append (m : Messenger β υ τ) (earlier later : List Bytes) :
    m.calls (earlier ++ later) = m.calls earlier ++ (m.sendAll earlier).calls later := by
  induction earlier generalizing m with
  | nil => rfl
  | cons payload rest ih => exact congrArg _ (ih _)

theorem state_send (m : Messenger β υ τ) (payload : Bytes) :
    (m.send payload).2.engine.state =
      advance m.engine.state (if Call.isAnswered ⟨m, payload⟩ then 1 else 0) := by
  rw [send_eq, Call.isAnswered, Call.exchange]
  cases m.exchange payload <;> rfl

/-- The engine moves on by one with each message that is answered. -/
theorem state_sendAll (m : Messenger β υ τ) (payloads : List Bytes) :
    (m.sendAll payloads).engine.state =
      advance m.engine.state ((m.calls payloads).countP Call.isAnswered) := by
  induction payloads generalizing m with
  | nil => rfl
  | cons payload rest ih =>
    rw [calls, List.countP_cons, Nat.add_comm, ← advance_advance, ← state_send]
    exact ih _

namespace Ahead

variable {m : Messenger β υ τ} {kept : Option Bytes} {n : Nat} {payloads : List Bytes}

/-- A call that succeeds brings the storage up to the engine. Any other leaves the storage as it is,
and the engine moves on if the message is answered. -/
theorem send (h : m.Ahead kept n) (payload : Bytes) :
    ((m.send payload).1 = .ok () ∧
      (m.send payload).2.Ahead (m.send payload).2.engine.state 0) ∨
    ((m.send payload).1 ≠ .ok () ∧
      (m.send payload).2.Ahead kept (n + if Call.isAnswered ⟨m, payload⟩ then 1 else 0)) := by
  have hout := m.send_outcome payload
  rcases hs : m.send payload with ⟨result, m'⟩
  rw [hs] at hout
  cases hout with
  | failed he =>
    rw [Call.isAnswered, Call.exchange, he]
    exact Or.inr ⟨by simp, h.carried payload⟩
  | refused ha hp =>
    rw [Call.isAnswered, Call.exchange, ha]
    exact Or.inr ⟨by simp, h.refused payload hp⟩
  | persisted _ hp => exact Or.inl ⟨rfl, h.persisted payload hp⟩

theorem before (h : m.Ahead kept n) : ∀ c ∈ m.calls payloads, ∃ kept n, c.before.Ahead kept n := by
  induction payloads generalizing m kept n with
  | nil => simp [calls]
  | cons payload rest ih =>
    refine List.forall_mem_cons.2 ⟨⟨kept, n, h⟩, ?_⟩
    rcases h.send payload with ⟨-, h'⟩ | ⟨-, h'⟩ <;> exact ih h'

theorem of_no_success (h : m.Ahead kept n) (hno : ∀ c ∈ m.calls payloads, c.result ≠ .ok ()) :
    (m.sendAll payloads).Ahead kept (n + (m.calls payloads).countP Call.isAnswered) := by
  induction payloads generalizing m n with
  | nil => exact h
  | cons payload rest ih =>
    obtain ⟨hfirst, hrest⟩ := List.forall_mem_cons.1 hno
    have hsend := (h.send payload).resolve_left fun hok => hfirst hok.1
    have hlast := ih hsend.2 hrest
    rw [Nat.add_assoc, Nat.add_comm (ite _ _ _), ← List.countP_cons] at hlast
    exact hlast

theorem counters (h : m.Ahead kept n) (hle : counter kept ≤ counter m.engine.state)
    (hbound : counter m.engine.state + (m.calls payloads).countP Call.isAnswered < 2 ^ 64) :
    ∃ states : List (Option Bytes), (m.calls payloads).map (·.after.stored) = states.map .ok ∧
      ((kept :: states).map counter).Pairwise (· ≤ ·) := by
  induction payloads generalizing m kept n with
  | nil => exact ⟨[], rfl, List.pairwise_singleton _ _⟩
  | cons payload rest ih =>
    obtain ⟨kept', n', h', hkept⟩ : ∃ kept' n', (m.send payload).2.Ahead kept' n' ∧
        (kept' = kept ∨ kept' = (m.send payload).2.engine.state) := by
      rcases h.send payload with ⟨-, h'⟩ | ⟨-, h'⟩
      · exact ⟨_, _, h', Or.inr rfl⟩
      · exact ⟨_, _, h', Or.inl rfl⟩
    rw [calls, List.countP_cons] at hbound
    have hcount := congrArg counter (m.state_send payload)
    rw [counter_advance (by omega)] at hcount
    -- what is kept is what was kept before, or the state of the engine
    have hgrows : counter kept ≤ counter kept' ∧
        counter kept' ≤ counter (m.send payload).2.engine.state := by
      rcases hkept with rfl | rfl <;> omega
    obtain ⟨states, hstored, hsorted⟩ := ih h' hgrows.2 (by omega)
    refine ⟨kept' :: states, ?_, ?_⟩
    · rw [calls, List.map_cons, hstored, List.map_cons, ← h'.stored_eq]
      rfl
    · rw [List.map_cons] at hsorted
      rw [List.map_cons, List.map_cons, List.pairwise_cons]
      exact ⟨List.forall_mem_cons.2 ⟨hgrows.1, fun n hn =>
        Nat.le_trans hgrows.1 ((List.pairwise_cons.1 hsorted).1 n hn)⟩, hsorted⟩

/-- A last call that succeeds, or no call at all, leaves the storage where the engine is. -/
theorem settled (h : m.Ahead m.engine.state 0)
    (hlast : ∀ c ∈ (m.calls payloads).getLast?, c.result = .ok ()) :
    (m.sendAll payloads).Ahead (m.sendAll payloads).engine.state 0 := by
  rcases List.eq_nil_or_concat payloads with rfl | ⟨init, payload, hsplit⟩
  · exact h
  · rw [List.concat_eq_append] at hsplit
    subst hsplit
    have hc : (m.calls (init ++ [payload])).getLast? = some ⟨m.sendAll init, payload⟩ := by
      rw [calls_append]
      exact List.getLast?_concat
    obtain ⟨kept, n, hbefore⟩ := h.before _ (List.mem_of_getLast? hc)
    have hsend : m.sendAll (init ++ [payload]) = ((m.sendAll init).send payload).2 := by
      simp [sendAll]
    rw [hsend]
    exact ((hbefore.send payload).resolve_right fun hne => hne.1 (hlast _ hc)).2

end Ahead

namespace Call

variable {c : Call β υ τ} {kept : Option Bytes} {n : Nat}

theorem isAnswered_iff (hno : c.result ≠ .ok ()) :
    c.isAnswered = true ↔ c.result = .error .stateNotPersisted := by
  have hout : Outcome c.before c.payload c.result c.after := c.before.send_outcome c.payload
  generalize c.after = m at hout
  generalize c.result = result at hno hout
  cases hout with
  | failed he => simp [isAnswered, exchange, he, Except.isOk, Except.toBool]
  | refused hans _ => simp [isAnswered, exchange, hans, Except.isOk, Except.toBool]
  | persisted _ _ => exact absurd rfl hno

/-- The answers of the bridge and of the storage tell what a call changes, and its result says so. -/
structure Confined (c : Call β υ τ) : Prop where
  failed : ∀ e, c.exchange = .error e → c.result = .error (.engine (.bridge e)) ∧
    c.after.engine = c.before.engine ∧ c.after.stored = c.before.stored
  answered : ∀ answer, c.exchange = .ok answer → c.after.engine = { c.before.engine with
    messages := c.before.engine.messages ++ [c.payload], state := advance c.before.engine.state 1 }
  refused : ∀ answer, c.exchange = .ok answer → c.before.accepts = false →
    c.result = .error .stateNotPersisted ∧ c.after.stored = c.before.stored
  accepted : ∀ answer, c.exchange = .ok answer → c.before.accepts = true → c.result = .ok ()
  settled : c.result = .ok () → c.after.stored = .ok c.after.engine.state

theorem confined (h : c.before.Ahead kept n) : c.Confined := by
  have hout : Outcome c.before c.payload c.result c.after := c.before.send_outcome c.payload
  generalize hr : c.result = result at hout
  generalize ha : c.after = m at hout
  cases hout with
  | failed he =>
    refine ⟨fun e h' => ?_, ?_, ?_, ?_, ?_⟩
    · obtain rfl := Except.error.inj (he.symm.trans h')
      exact ⟨hr, by rw [ha]; rfl, by rw [ha]; rfl⟩
    all_goals simp [exchange, he, hr]
  | refused hans hp =>
    have hstored : c.after.stored = c.before.stored := by
      rw [ha, (h.refused c.payload hp).stored_eq, h.stored_eq]
    exact ⟨by simp [exchange, hans], fun _ _ => by rw [ha]; rfl, fun _ _ _ => ⟨hr, hstored⟩,
      by simp [hp], by simp [hr]⟩
  | persisted hans hp =>
    have hstored : c.after.stored = .ok c.after.engine.state := by
      rw [ha, (h.persisted c.payload hp).stored_eq]
    exact ⟨by simp [exchange, hans], fun _ _ => by rw [ha]; rfl, by simp [hp], fun _ _ _ => hr,
      fun _ => hstored⟩

end Call

/-- The engine gets ahead of the storage only by calls that say so. Once a session has started, a call
whose exchange fails says so and changes nothing; one whose new state is not stored says so, moves the
engine on by one and leaves what is stored; one that succeeds stores the state that the engine is at.
So what is stored is the state of the engine at the last success, or at the start; it is another one
than the engine's exactly if a state was lost since; and the counters stored in turn never decrease. -/
theorem divergence_confined (session : Session β υ τ) (failing : List Command) {enrolled : Bool}
    {session' : Session β υ τ} {engine' : CounterEngine}
    (hstart : session.start ({ failing } : CounterEngine) = (.ok enrolled, session', engine'))
    (payloads : List Bytes) :
    let m : Messenger β υ τ := ⟨session', engine'⟩
    let calls := m.calls payloads
    m.stored = .ok m.engine.state ∧
    (∀ c ∈ calls, c.Confined) ∧
    (counter m.engine.state + calls.countP Call.isAnswered < 2 ^ 64 →
      (∀ earlier later, payloads = earlier ++ later →
        (∀ c ∈ (m.calls earlier).getLast?, c.result = .ok ()) →
        (∀ c ∈ (m.sendAll earlier).calls later, c.result ≠ .ok ()) →
        (m.sendAll payloads).stored = .ok (m.sendAll earlier).engine.state ∧
        ((m.sendAll payloads).stored ≠ .ok (m.sendAll payloads).engine.state ↔
          ∃ c ∈ (m.sendAll earlier).calls later, c.result = .error .stateNotPersisted)) ∧
      ∃ states : List (Option Bytes), m.stored :: calls.map (·.after.stored) = states.map .ok ∧
        (states.map counter).Pairwise (· ≤ ·)) := by
  intro m calls
  have hm : m.Ahead m.engine.state 0 := by
    have hstep := CounterLoop.inStep_of_start
      (l := CounterLoop.unstarted session { failing } {}) rfl hstart
    exact ⟨hstep.ready, hstep.held, rfl⟩
  refine ⟨hm.stored_eq, fun c hc => ?_, fun hbound => ⟨?_, ?_⟩⟩
  · obtain ⟨kept, n, h⟩ := hm.before c hc
    exact Call.confined h
  · rintro earlier later rfl hlast hno
    have hnow := (hm.settled hlast).of_no_success hno
    have hall : m.sendAll (earlier ++ later) = (m.sendAll earlier).sendAll later :=
      List.foldl_append
    have hlost : (∃ c ∈ (m.sendAll earlier).calls later, c.result = .error .stateNotPersisted) ↔
        0 < ((m.sendAll earlier).calls later).countP Call.isAnswered := by
      rw [List.countP_pos_iff]
      exact exists_congr fun c => and_congr_right fun hc => (Call.isAnswered_iff (hno c hc)).symm
    -- the counter has room for the calls behind the last success, so no two of its states are alike
    have hroom : counter (m.sendAll earlier).engine.state +
        ((m.sendAll earlier).calls later).countP Call.isAnswered < 2 ^ 64 := by
      rw [show calls = _ from m.calls_append earlier later, List.countP_append] at hbound
      rw [state_sendAll, counter_advance (by omega)]
      omega
    rw [Nat.zero_add] at hnow
    rw [hall, hnow.stored_eq, hnow.state, hlost]
    refine ⟨rfl, fun hne => Nat.pos_of_ne_zero fun hzero => hne ?_, fun hpos heq => ?_⟩
    · rw [hzero, CounterEngine.advance_zero]
    · exact CounterEngine.advance_ne hroom hpos (Except.ok.inj heq).symm
  · obtain ⟨states, hstored, hsorted⟩ := hm.counters (Nat.le_refl _) hbound
    refine ⟨m.engine.state :: states, ?_, hsorted⟩
    rw [hstored, hm.stored_eq, List.map_cons]

section Refusals

/-- A recorder that answers from a script, and takes every state once that is used up. -/
structure ScriptedRecorder where
  answers : List Bool

instance : StateRecorder ScriptedRecorder where
  update r _ := (r.answers.headD true, ⟨r.answers.tail⟩)

/-- An enrollment, a send that fails, and three that are answered; the recorder refuses the first and
the last state that these bring. -/
def flaky : Session DirectoryBackend ScriptedRecorder ScriptedTransport where
  devEui := ⟨1⟩
  storage := Storage.make (.callbackApplication none .notInitialized ⟨[true, false, true, false]⟩) {}
  bridge := { transport := { replies :=
    [.respond [7], .fail .noConnection, .respond [9], .respond [9], .respond [9]] } }

def enrolled : Messenger DirectoryBackend ScriptedRecorder ScriptedTransport :=
  ⟨(flaky.start ({} : CounterEngine)).2.1, (flaky.start ({} : CounterEngine)).2.2⟩

/-- A failure, a refusal, a success and a refusal: the storage keeps what the success has stored. -/
theorem divergence_confined_at_refusals :
    (flaky.start ({} : CounterEngine)).1 = .ok true ∧
      (enrolled.calls [[1], [2], [3], [4]]).map Call.result =
        [.error (.engine (.bridge (.transport .noConnection))), .error .stateNotPersisted, .ok (),
          .error .stateNotPersisted] ∧
      (enrolled.sendAll [[1], [2], [3], [4]]).stored = .ok (some [2, 0, 0, 0, 0, 0, 0, 0]) ∧
      (enrolled.sendAll [[1], [2], [3], [4]]).stored ≠
        .ok (enrolled.sendAll [[1], [2], [3], [4]]).engine.state := by
  have hstart : (flaky.start ({} : CounterEngine)).1 = .ok true := rfl
  obtain ⟨-, -, hruns⟩ := divergence_confined flaky [] (Prod.ext hstart rfl) [[1], [2], [3], [4]]
  have hlast : ∀ c ∈ (enrolled.calls [[1], [2], [3]]).getLast?, c.result = .ok () := by
    rintro c ⟨rfl⟩
    rfl
  have hlost : ∀ c ∈ (enrolled.sendAll [[1], [2], [3]]).calls [[4]],
      c.result = .error .stateNotPersisted := by
    intro c hc
    rw [List.mem_singleton.1 hc]
    rfl
  obtain ⟨hstored, hdiffers⟩ := (hruns (by decide +kernel)).1 [[1], [2], [3]] [[4]] rfl hlast
    fun c hc => by simp [hlost c hc]
  exact ⟨hstart, rfl, hstored, hdiffers.2 ⟨_, List.mem_singleton_self _, rfl⟩⟩

end Refusals

end Messenger

end SensorLink
