import Mathlib.Algebra.Group.Nat.Defs
import Mathlib.Data.List.Infix
import SensorLink.Proofs.Frame.Stream
import SensorLink.Proofs.Socket.Run

namespace SensorLink

namespace SocketTransport

def exchanges (as : List Attempt) (link : Nat) : List Attempt :=
  as.filter fun a => a.link = link && a.fate.isCarried

/-- Bytes written to a connection. -/
def writtenOver (t : SocketTransport) (link : Nat) : Bytes := t.writtenPerLink.getD link []

/-- Bytes still to be read from a connection; nothing is read from one that is over. -/
def unreadOver (t : SocketTransport) (link : Nat) : Bytes :=
  if link < t.finished.length then [] else t.reading.getD (link - t.finished.length) []

variable {t t' : SocketTransport} {request : Bytes} {fate : Fate}
  {as : List Attempt}

theorem exchanges_cons (a : Attempt) (as : List Attempt) (link : Nat) :
    exchanges (a :: as) link = exchanges [a] link ++ exchanges as link :=
  List.filter_append [a] as

theorem getD_append_singleton {α : Type} (xs : List α) (x d : α) (i : Nat) :
    (xs ++ [x]).getD i d = if i = xs.length then x else xs.getD i d := by
  rw [List.getD_eq_getElem?_getD, List.getD_eq_getElem?_getD]
  rcases Nat.lt_trichotomy i xs.length with hlt | rfl | hgt
  · rw [if_neg (by omega), List.getElem?_append_left hlt]
  · rw [if_pos rfl, List.getElem?_concat_length]
    rfl
  · have hlen : (xs ++ [x]).length ≤ i := by
      rw [List.length_append, List.length_singleton]
      omega
    rw [if_neg (by omega), List.getElem?_eq_none hlen, List.getElem?_eq_none (by omega)]

theorem writtenOver_eq (t : SocketTransport) (link : Nat) :
    t.writtenOver link = if link = t.finished.length then t.writing else t.finished.getD link [] := by
  rw [writtenOver, writtenPerLink, writing]
  rcases t.link with _ | l
  · split
    · rename_i h
      simp [h]
    · simp
  · exact getD_append_singleton _ _ _ _

theorem writtenOver_of_closed (h : t.link = none) (link : Nat) :
    t.writtenOver link = t.finished.getD link [] := by
  rw [writtenOver, writtenPerLink, h]
  simp

theorem Sends.writtenOver (h : Sends t request fate t') (link : Nat) :
    t'.writtenOver link = t.writtenOver link ++
      (exchanges [⟨request, t.finished.length, fate⟩] link).flatMap (·.fate.sent) := by
  cases h with
  | stopped | refused => simp [exchanges, Fate.isCarried]
  | unreached h hlink hlink' hover =>
    rw [writtenOver_of_closed hlink, writtenOver_of_closed hlink']
    rcases hover with ⟨hover, -⟩ | ⟨stream, hover, -⟩
    · simp [hover, exchanges, Fate.isCarried]
    · rw [hover, getD_append_singleton]
      split
      · rename_i heq
        simp [heq, exchanges, Fate.isCarried]
      · simp [exchanges, Fate.isCarried]
  | lost h hsent hlink' hover hread =>
    -- the connection is over, so its bytes have moved to the end of those of finished ones
    rw [writtenOver_of_closed hlink', writtenOver_eq, hover, getD_append_singleton]
    by_cases heq : link = t.finished.length
    · simp [heq, exchanges, Fate.isCarried, Fate.sent]
    · simp [heq, Ne.symm heq, exchanges]
  | answered h hfits hlink' hover hwritten hread hread' =>
    rw [writtenOver_eq, writtenOver_eq, hover, hwritten]
    by_cases heq : link = t.finished.length
    · simp [heq, exchanges, Fate.isCarried, Fate.sent]
    · simp [heq, Ne.symm heq, exchanges]

theorem Runs.writtenOver (h : Runs t as t') (link : Nat) :
    t'.writtenOver link = t.writtenOver link ++ (exchanges as link).flatMap (·.fate.sent) := by
  induction h with
  | done t => simp [exchanges]
  | send first config later ih =>
    rw [exchanges_cons, List.flatMap_append, ← List.append_assoc, ← first.writtenOver link]
    exact ih
  | requestStop later ih => exact ih

def readOver (as : List Attempt) (link : Nat) : Bytes :=
  ((exchanges as link).filterMap (·.fate.response?)).flatMap FrameCodec.responseFrame

theorem readOver_cons (a : Attempt) (as : List Attempt) (link : Nat) :
    readOver (a :: as) link = readOver [a] link ++ readOver as link := by
  rw [readOver, exchanges_cons, List.filterMap_append, List.flatMap_append]
  rfl

theorem unreadOver_of_eq {stream : Bytes} {streams : List Bytes} (h : t.reading = stream :: streams)
    (link : Nat) :
    t.unreadOver link = if link = t.finished.length then stream
      else if link < t.finished.length then [] else streams.getD (link - t.finished.length - 1) [] := by
  rw [unreadOver, h]
  split
  · rw [if_neg (by omega)]
  · split
    · rename_i heq
      rw [heq, Nat.sub_self]
      rfl
    · obtain ⟨n, hn⟩ : ∃ n, link - t.finished.length = n + 1 :=
        ⟨link - t.finished.length - 1, by omega⟩
      rw [hn]
      rfl

theorem readOver_of_none {a : Attempt} (h : a.fate.response? = none) (link : Nat) :
    readOver [a] link = [] := by
  rw [readOver, exchanges, List.filter_singleton]
  cases decide (a.link = link) && a.fate.isCarried <;> simp [h]

theorem unreadOver_prefix_of_over {stream written : Bytes}
    (hover : t'.finished = t.finished ++ [written]) (hread : t.reading = stream :: t'.reading)
    (link : Nat) : t'.unreadOver link <+: t.unreadOver link := by
  have hlen : t'.finished.length = t.finished.length + 1 := by
    rw [hover, List.length_append, List.length_singleton]
  rw [unreadOver_of_eq hread, unreadOver, hlen, Nat.sub_add_eq]
  split
  · exact List.nil_prefix
  · rw [if_neg (by omega), if_neg (by omega)]

/-- What a send reads stood at the front of what was to be read from its connection. Only a prefix is
left behind it, since a connection that is given up loses the bytes not read. -/
theorem Sends.unreadOver (h : Sends t request fate t') (link : Nat) :
    readOver [⟨request, t.finished.length, fate⟩] link ++ t'.unreadOver link <+:
      t.unreadOver link := by
  cases h with
  | stopped | refused =>
    rw [readOver_of_none rfl, List.nil_append]
  | unreached h hlink hlink' hover =>
    rw [readOver_of_none rfl, List.nil_append]
    rcases hover with ⟨hover, hread⟩ | ⟨stream, hover, hread⟩
    · rw [SocketTransport.unreadOver, SocketTransport.unreadOver, hover, hread]
    · exact unreadOver_prefix_of_over hover hread link
  | lost h hsent hlink' hover hread =>
    rw [readOver_of_none rfl, List.nil_append]
    exact unreadOver_prefix_of_over hover hread link
  | answered h hfits hlink' hover hwritten hread hread' =>
    rw [unreadOver_of_eq hread, unreadOver_of_eq hread', hover]
    by_cases heq : link = t.finished.length
    · simp [heq, readOver, exchanges, Fate.isCarried, Fate.response?]
    · simp [heq, Ne.symm heq, readOver, exchanges]

theorem Runs.unreadOver (h : Runs t as t') (link : Nat) :
    readOver as link ++ t'.unreadOver link <+: t.unreadOver link := by
  induction h with
  | done t => exact List.prefix_refl _
  | send first config later ih =>
    rw [readOver_cons, List.append_assoc]
    refine List.IsPrefix.trans ?_ (first.unreadOver link)
    exact (List.prefix_append_right_inj _).2 ih
  | requestStop later ih => exact ih

theorem Runs.fits (h : Runs t as t') (link : Nat) :
    ∀ response ∈ (exchanges as link).filterMap (·.fate.response?), t.codec.Fits response := by
  intro response hm
  obtain ⟨a, ha, hresponse⟩ := List.mem_filterMap.1 hm
  obtain ⟨sent, hfate⟩ := Fate.response?_eq_some.1 hresponse
  have hsound := h.sound a (List.mem_filter.1 ha).1
  rw [Attempt.Sound, hfate] at hsound
  exact hsound.2

end SocketTransport

end SensorLink
