import SensorLink.Double.Planned
import SensorLink.Proofs.Bridge.Answers

namespace SensorLink

namespace Resolver

/-- The answer to a response, by whether one was taken before. -/
def answer (resolved : Bool) (response : Bytes) : ProtocolStatus :=
  if resolved then .responseWithoutRequest
  else if response.isEmpty then .internalChannelError
  else .ok

theorem answer_cases (resolved : Bool) (response : Bytes) :
    (answer resolved response = .internalChannelError ↔ response = [] ∧ resolved = false) ∧
    (answer resolved response = .ok ↔ response ≠ [] ∧ resolved = false) ∧
    (answer resolved response = .responseWithoutRequest ↔ resolved = true) := by
  cases resolved <;> cases response <;> simp [answer]

theorem resolve_eq (r : Resolver) (response : Bytes) :
    (r.resolve response).1 = answer r.isResolved response ∧
      (r.resolve response).2.isResolved = (r.isResolved || !response.isEmpty) := by
  obtain ⟨_ | x⟩ := r
  · cases response <;> exact ⟨rfl, rfl⟩
  · exact ⟨rfl, rfl⟩

theorem getElem?_resolveAll (r : Resolver) (responses : List Bytes) (i : Nat) :
    (r.resolveAll responses).1[i]? = responses[i]?.map fun response =>
      (answer (r.isResolved || (responses.take i).any fun x => !x.isEmpty) response,
        r.isResolved || (responses.take (i + 1)).any fun x => !x.isEmpty) := by
  induction responses generalizing r i with
  | nil => rfl
  | cons response rest ih =>
    -- the slot knows of the responses before only whether one was taken
    obtain ⟨hanswer, hresolved⟩ := r.resolve_eq response
    rw [resolveAll]
    cases i with
    | zero => simp [hanswer, hresolved]
    | succ i => simp [ih, hresolved, Bool.or_assoc]

end Resolver

def Transport.sendAll {τ : Type} [Transport τ] (t : τ) : List Bytes → List SendOutcome × τ
  | [] => ([], t)
  | bytes :: rest =>
    let (outcome, t) := Transport.send t bytes
    let (outcomes, t) := sendAll t rest
    (outcome :: outcomes, t)

@[simp] theorem Transport.length_sendAll {τ : Type} [Transport τ] (t : τ) (requests : List Bytes) :
    (sendAll t requests).1.length = requests.length := by
  induction requests generalizing t with
  | nil => rfl
  | cons bytes rest ih => simp only [sendAll, List.length_cons, ih]

/-- Any outcomes can be met, and the transport then sees each request once. -/
theorem PlannedTransport.sendAll_eq {requests : List Bytes} {outcomes : List SendOutcome}
    (h : outcomes.length = requests.length) (notes : List SendNote) :
    (Transport.sendAll { outcomes, notes : PlannedTransport } requests).1 = outcomes ∧
      (Transport.sendAll { outcomes, notes : PlannedTransport } requests).2.notes.map (·.request) =
        notes.map (·.request) ++ requests := by
  induction requests generalizing outcomes notes with
  | nil =>
    obtain rfl := List.length_eq_zero_iff.1 h
    simp [Transport.sendAll]
  | cons bytes rest ih =>
    cases outcomes with
    | nil => cases h
    | cons outcome outcomes =>
      have hrest := ih (Nat.succ.inj h)
      simp [Transport.sendAll, Transport.send, send, hrest]

namespace SendOutcome

variable {o : SendOutcome}

theorem result_eq_noResponse :
    o.result = .error .noResponse ↔ o.status = .ok ∧ ∀ x ∈ o.resolutions, x = [] := by
  have hnone : (o.resolutions.find? fun x => !x.isEmpty) = none ↔ ∀ x ∈ o.resolutions, x = [] := by
    simp
  rw [result, ← hnone, ← resolver_slot]
  cases o.status <;> cases o.resolver.slot <;> simp

theorem result_eq_transport {status : TransportStatus} :
    o.result = .error (.transport status) ↔
      o.status = status ∧ (status = .noConnection ∨ status = .connectorError) := by
  rw [result]
  cases o.status <;> cases o.resolver.slot <;> cases status <;> simp

end SendOutcome

namespace Bridge

variable {τ : Type} [Transport τ]

def requestAll (b : Bridge τ) : List Bytes → List (Except BridgeError Bytes) × Bridge τ
  | [] => ([], b)
  | bytes :: rest =>
    let (result, b) := b.request bytes
    let (results, b) := b.requestAll rest
    (result :: results, b)

theorem requestAll_eq (b : Bridge τ) (requests : List Bytes) :
    b.requestAll requests =
      ((Transport.sendAll b.transport requests).1.map SendOutcome.result,
        { transport := (Transport.sendAll b.transport requests).2
          exchanges := b.exchanges + requests.length }) := by
  induction requests generalizing b with
  | nil => rfl
  | cons bytes rest ih =>
    simp only [requestAll, Transport.sendAll, ih, request, List.map_cons, List.length_cons]
    rw [Nat.add_assoc, Nat.add_comm 1]

/-- Whatever a transport does, each request gets the first response of its own send that is not
empty, or the error that the status of that send stands for; the transport is handed the requests in
turn, each once, and they are counted. Within a send a response is taken if it is the first that is
not empty, refused as empty before that one and as not asked for after it. Any sends can be met. -/
theorem requestAll_correlated (t : τ) (requests : List Bytes) :
    let run := ({ transport := t } : Bridge τ).requestAll requests
    let sends := Transport.sendAll t requests
    run.2.transport = sends.2 ∧ run.2.exchanges = requests.length ∧
    run.1.length = requests.length ∧ sends.1.length = requests.length ∧
    BridgeError.noResponse.status = .noConnection ∧
    (∀ outcomes : List SendOutcome, outcomes.length = requests.length →
      let planned := Transport.sendAll ({ outcomes } : PlannedTransport) requests
      planned.1 = outcomes ∧ planned.2.notes.map (·.request) = requests) ∧
    ∀ (i : Nat) (o : SendOutcome), sends.1[i]? = some o →
      (∃ result, run.1[i]? = some result ∧
        (∀ x, result = .ok x ↔
          o.status = .ok ∧ (o.resolutions.find? fun y => !y.isEmpty) = some x) ∧
        (result = .error .noResponse ↔ o.status = .ok ∧ ∀ y ∈ o.resolutions, y = []) ∧
        (result = .error .exitRequested ↔ o.status = .exitLoop) ∧
        ∀ status, result = .error (.transport status) ↔
          o.status = status ∧ (status = .noConnection ∨ status = .connectorError)) ∧
      ∀ (j : Nat) (x : Bytes), o.resolutions[j]? = some x →
        ∃ status resolved,
          (Resolver.resolveAll {} o.resolutions).1[j]? = some (status, resolved) ∧
          (status = .internalChannelError ↔ x = [] ∧ ∀ y ∈ o.resolutions.take j, y = []) ∧
          (status = .ok ↔ x ≠ [] ∧ ∀ y ∈ o.resolutions.take j, y = []) ∧
          (status = .responseWithoutRequest ↔ ∃ y ∈ o.resolutions.take j, y ≠ []) ∧
          (resolved = true ↔ ∃ y ∈ o.resolutions.take (j + 1), y ≠ []) := by
  intro run sends
  have hrun : run = (sends.1.map SendOutcome.result, ⟨sends.2, 0 + requests.length⟩) :=
    requestAll_eq _ requests
  have hlength : sends.1.length = requests.length := Transport.length_sendAll t requests
  rw [hrun]
  refine ⟨rfl, Nat.zero_add _, by rw [List.length_map, hlength], hlength, rfl,
    fun outcomes h => PlannedTransport.sendAll_eq h [], fun i o ho => ⟨?_, ?_⟩⟩
  · refine ⟨o.result, by rw [List.getElem?_map, ho]; rfl, ?_⟩
    exact ⟨fun x => SendOutcome.result_eq_ok, SendOutcome.result_eq_noResponse,
      SendOutcome.result_eq_exit, fun status => SendOutcome.result_eq_transport⟩
  · intro j x hx
    -- the answer to a response depends on whether one before it was taken
    have hany (n : Nat) : ((o.resolutions.take n).any fun y => !y.isEmpty) = true ↔
        ∃ y ∈ o.resolutions.take n, y ≠ [] := by
      simp [List.any_eq_true]
    have hnone (n : Nat) : ((o.resolutions.take n).any fun y => !y.isEmpty) = false ↔
        ∀ y ∈ o.resolutions.take n, y = [] := by
      simp [List.any_eq_false]
    obtain ⟨hempty, hok, hlate⟩ :=
      Resolver.answer_cases ((o.resolutions.take j).any fun y => !y.isEmpty) x
    rw [hnone] at hempty hok
    rw [hany] at hlate
    refine ⟨_, _, ?_, hempty, hok, hlate, hany (j + 1)⟩
    rw [Resolver.getElem?_resolveAll, hx]
    rfl

end Bridge

end SensorLink
