import Mathlib.Data.List.Chain
import SensorLink.Proofs.Socket.Attempts

namespace SensorLink

namespace SocketTransport

/-- What a host does with a transport. -/
inductive Call where
  | send (request : Bytes)
  | requestStop
deriving DecidableEq, Repr

/-- A request, the number of the connection that was open or the next to be opened, and what became of
the request. -/
structure Attempt where
  request : Bytes
  link : Nat
  fate : Fate
deriving DecidableEq, Repr

def attempt (t : SocketTransport) (request : Bytes) : Attempt :=
  ⟨request, t.finished.length, t.fate request⟩

def after (t : SocketTransport) : Call → SocketTransport
  | .send request => (t.send request).2
  | .requestStop => t.requestStop

def run (t : SocketTransport) (calls : List Call) : SocketTransport := calls.foldl after t

def outcomes (t : SocketTransport) : List Call → List SendOutcome
  | [] => []
  | .send request :: calls => (t.send request).1 :: outcomes (t.send request).2 calls
  | .requestStop :: calls => outcomes t.requestStop calls

def tried (as : List Attempt) : List Attempt := as.filter (·.fate.isTried)

/-- A run from one state to another, with what became of each request. -/
inductive Runs : SocketTransport → List Attempt → SocketTransport → Prop where
  | done (t : SocketTransport) : Runs t [] t
  | send {t t₁ t' : SocketTransport} {request : Bytes} {fate : Fate} {as : List Attempt}
      (first : Sends t request fate t₁)
      (config : t₁.devEui = t.devEui ∧ t₁.codec = t.codec) (later : Runs t₁ as t') :
      Runs t (⟨request, t.finished.length, fate⟩ :: as) t'
  | requestStop {t t' : SocketTransport} {as : List Attempt} (later : Runs t.requestStop as t') :
      Runs t as t'

/-- What the codec says of a request, and how much of its frame went out. -/
def Attempt.Sound (a : Attempt) (e : DevEui) (c : FrameCodec) : Prop :=
  match a.fate with
  | .stopped => True
  | .refused => c.maxPayload < a.request.length
  | .unreached => a.request.length ≤ c.maxPayload
  | .lost sent => ∃ frame, c.encodeRequest ⟨e, a.request⟩ = .ok frame ∧ sent <+: frame
  | .answered sent response => c.encodeRequest ⟨e, a.request⟩ = .ok sent ∧ c.Fits response

variable {t t' : SocketTransport} {request : Bytes} {fate : Fate} {as : List Attempt}

theorem Runs.config (h : Runs t as t') : t'.devEui = t.devEui ∧ t'.codec = t.codec := by
  induction h with
  | done t => exact ⟨rfl, rfl⟩
  | send first config later ih => exact ⟨ih.1.trans config.1, ih.2.trans config.2⟩
  | requestStop later ih => exact ih

theorem Sends.sound (h : Sends t request fate t') (link : Nat) :
    Attempt.Sound ⟨request, link, fate⟩ t.devEui t.codec := by
  cases h with
  | stopped h => trivial
  | refused h => exact h
  | unreached h hlink hlink' hover => exact h
  | lost h hsent hlink' hover hread => exact ⟨_, h, hsent⟩
  | answered h hfits hlink' hover hwritten hread hread' => exact ⟨h, hfits⟩

theorem Runs.sound (h : Runs t as t') : ∀ a ∈ as, a.Sound t.devEui t.codec := by
  induction h with
  | done t => simp
  | send first config later ih =>
    intro a ha
    rcases List.mem_cons.1 ha with rfl | ha
    · exact first.sound _
    · have hsound := ih a ha
      rw [config.1, config.2] at hsound
      exact hsound
  | requestStop later ih => exact ih

theorem tried_cons (a : Attempt) (as : List Attempt) :
    tried (a :: as) = if a.fate.isTried then a :: tried as else tried as := List.filter_cons

theorem Sends.eq_of_not_tried (h : Sends t request fate t') (hf : ¬ fate.isTried = true) :
    t' = t := by
  cases h with
  | stopped | refused => rfl
  | _ => exact absurd rfl hf

theorem Sends.isCarried (h : Sends t request fate t') (hf : fate.isTried = true)
    (hopen : t.isConnected = true) : fate.isCarried = true := by
  cases h with
  | stopped | refused => cases hf
  | unreached h hlink hlink' hover => simp [isConnected, hlink] at hopen
  | lost | answered => rfl

theorem Sends.isConnected (h : Sends t request fate t') (hf : fate.isTried = true) :
    t'.isConnected = fate.response?.isSome := by
  cases h with
  | stopped | refused => cases hf
  | unreached h hlink hlink' hover => simp [SocketTransport.isConnected, hlink', Fate.response?]
  | lost h hsent hlink' hover hread =>
    simp [SocketTransport.isConnected, hlink', Fate.response?]
  | answered h hfits hlink' hover hwritten hread hread' => exact hlink'

theorem Runs.isConnected (h : Runs t as t') :
    t'.isConnected =
      ((tried as).getLast?.map (·.fate.response?.isSome)).getD t.isConnected := by
  induction h with
  | done t => rfl
  | @send t t₁ t' request fate as first config later ih =>
    rw [tried_cons]
    split
    · rename_i htried
      rw [first.isConnected htried] at ih
      rw [ih, List.getLast?_cons]
      cases (tried as).getLast? <;> rfl
    · rename_i htried
      cases first.eq_of_not_tried htried
      exact ih
  | requestStop later ih => exact ih

end SocketTransport

end SensorLink
