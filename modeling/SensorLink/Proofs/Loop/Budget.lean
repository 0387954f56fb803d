import SensorLink.Proofs.Loop.Restart

namespace SensorLink

theorem Bridge.Carries.replies {b b' : Bridge ScriptedTransport}
    {sends : List (Bridge ScriptedTransport × Bytes)} (h : b.Carries sends b') :
    b'.transport.replies = b.transport.replies.drop sends.length ∧
      b'.transport.sent = b.transport.sent ++ sends.map (·.2) ∧
      ∀ i q, sends[i]? = some q → q.1.transport.replies = b.transport.replies.drop i := by
  induction sends generalizing b with
  | nil =>
    obtain rfl : b' = b := h
    refine ⟨rfl, (List.append_nil _).symm, ?_⟩
    intro i q hq
    cases hq
  | cons q rest ih =>
    obtain ⟨hfirst, hrest⟩ := h
    obtain ⟨-, hreplies, hsent⟩ := b.transport.send_eq q.2
    obtain ⟨hleft, hlog, heach⟩ := ih hrest
    simp only [Bridge.request, hreplies, hsent] at hleft hlog heach
    refine ⟨?_, ?_, ?_⟩
    · rw [hleft, List.length_cons, ← List.drop_one, List.drop_drop, Nat.add_comm]
    · rw [hlog, List.append_assoc]
      rfl
    · intro i q' hq
      cases i with
      | zero =>
        obtain rfl : q = q' := Option.some.inj hq
        rw [hfirst, List.drop_zero]
      | succ i =>
        rw [heach i q' hq, ← List.drop_one, List.drop_drop, Nat.add_comm]

namespace CounterLoop

open CommandLoop

section Answers

variable {β υ τ : Type} [Transport τ] {result : Option Ending} {l l' : CounterLoop β υ τ}
  {sends : List (Sending CounterEngine β υ τ)} {state : LoopState}

/-- No request follows one that was not answered, and one that is told to stop ends a run well. -/
structure Answered (result : Option Ending) (sends : List (Sending CounterEngine β υ τ)) :
    Prop where
  before : ∀ s ∈ sends.dropLast, s.outcome.answers = true
  stopped : ∀ s ∈ sends.getLast?, s.outcome.status = .exitLoop →
    ∃ report, result = some (.ok report)

theorem Course.toAnswered (h : Course result state sends) : Answered result sends where
  before := h.answered
  stopped s hlast hexit := by
    have hm : s ∈ sends := List.mem_of_getLast? hlast
    rcases result with _ | e | report
    · exact absurd hexit (status_of_answers (h.going rfl s hm))
    · exact absurd hexit ((h.fails e rfl).2 s hm)
    · exact ⟨report, rfl⟩

variable [MountBackend β] [StateRecorder υ]

theorem Opening.answered (h : Opening l result l' sends) : Answered result sends := by
  have hone {storage : Storage β υ} (hexit : (l.enrolling storage).outcome.status = .exitLoop →
      ∃ report, result = some (.ok report)) : Answered result [l.enrolling storage] := by
    refine ⟨by simp, ?_⟩
    rintro s ⟨rfl⟩
    exact hexit
  cases h with
  | unread h | restored h => exact ⟨by simp, by simp⟩
  | enrollExit h ha => exact hone fun _ => ⟨_, rfl⟩
  | enrollFailed h ha he =>
    refine hone fun hexit => ?_
    rw [SendOutcome.result_eq_exit.2 hexit] at ha
    exact absurd (Except.error.inj ha).symm he
  | enrolled h ha hp | enrollLost h ha hp =>
    refine hone fun hexit => ?_
    rw [SendOutcome.result_eq_exit.2 hexit] at ha
    cases ha

theorem Opening.going (h : Opening l none l' sends) : ∀ s ∈ sends, s.outcome.answers = true := by
  cases h with
  | restored h => simp
  | enrolled h ha hp =>
    intro s hm
    rw [List.mem_singleton.1 hm]
    exact SendOutcome.answers_of_result ha

theorem answered_runUpTo (bound : Nat) (l : CounterLoop β υ τ) :
    Answered (runUpTo bound l).1 (sendsUpTo bound l) := by
  apply run_cases (motive := fun result _ sends => Answered result sends)
  · exact fun ending l' sends hopen => hopen.answered
  · intro l' sends hopen
    obtain ⟨hrest, hstarted⟩ := course_cyclesUpTo bound l'
    exact (hrest.append hopen.going hstarted).toAnswered

end Answers

variable {β υ : Type} {l : Scripted β υ}
  {sends : List (Sending CounterEngine β υ ScriptedTransport)}

/-- Whether the last request finds the script used up. -/
def exhausts (sends : List (Sending CounterEngine β υ ScriptedTransport)) : Bool :=
  sends.getLast?.any fun s => (replies s.loop).isEmpty

theorem outcome_eq (s : Sending CounterEngine β υ ScriptedTransport) :
    s.outcome = ScriptedReply.outcomeOf (replies s.loop) :=
  (s.bridge.transport.send_eq _).1

theorem replies_ne_nil_of_answers {s : Sending CounterEngine β υ ScriptedTransport}
    (h : s.outcome.answers = true) : replies s.loop ≠ [] := by
  intro hnil
  rw [outcome_eq, hnil] at h
  cases h

theorem length_dropLast_le {result : Option Ending} (h : Answered result sends)
    (heach : ∀ i s, sends[i]? = some s → replies s.loop = l.replies.drop i) :
    sends.dropLast.length ≤ l.replies.length := by
  apply Nat.le_of_not_lt
  -- the reply that is missing would be due to a request before the last one
  intro hlt
  have hm := List.getElem_mem hlt
  have hsend : sends[l.replies.length]? = some sends.dropLast[l.replies.length] := by
    rw [List.getElem_dropLast, List.getElem?_eq_getElem]
  apply replies_ne_nil_of_answers (h.before _ hm)
  rw [heach _ _ hsend, List.drop_length]

/-- A last request that finds the script used up comes after one request for every reply, and one
that does not takes a reply too. -/
theorem length_eq_of_each {result : Option Ending} (h : Answered result sends)
    (heach : ∀ i s, sends[i]? = some s → replies s.loop = l.replies.drop i) :
    sends.length =
      (l.replies.take sends.length).length + if exhausts sends then 1 else 0 := by
  have hbefore := length_dropLast_le h heach
  rw [List.length_take]
  rcases List.eq_nil_or_concat sends with rfl | ⟨front, s, rfl⟩
  · rfl
  · rw [List.concat_eq_append, List.dropLast_concat] at hbefore
    have hlast : replies s.loop = l.replies.drop front.length :=
      heach front.length s (by simp)
    have hexhausts : exhausts (front.concat s) = (l.replies.drop front.length).isEmpty := by
      simp [exhausts, hlast]
    rw [hexhausts, List.length_concat]
    by_cases hused : l.replies.length ≤ front.length
    · rw [List.drop_eq_nil_of_le hused, List.isEmpty_nil, if_pos rfl]
      omega
    · rw [List.isEmpty_eq_false_iff.2 (by simpa using hused), if_neg Bool.false_ne_true]
      omega

theorem exists_report_of_exhausts {result : Option Ending} (h : Answered result sends)
    (hexhausts : exhausts sends = true) : ∃ report, result = some (.ok report) := by
  obtain ⟨s, hlast, hnil⟩ := (Option.any_eq_true _ _).1 hexhausts
  refine h.stopped s hlast ?_
  rw [outcome_eq, List.isEmpty_iff.1 hnil]
  rfl

variable [MountBackend β] [StateRecorder υ]

theorem runUpTo_eq_run (l : Scripted β υ) :
    runUpTo (l.replies.length + 1) l = (some l.run.1, l.run.2) := by
  have hopen := l.opened_opening
  rw [runUpTo_eq, run_eq]
  rcases h : l.opened with ⟨_ | ending, l'⟩
  · rw [h] at hopen
    have hused : l.startSends.length + answersLeft l' = l.replies.length := hopen.length_replies
    exact cyclesUpTo_eq_cycles (by omega)
  · rfl

/-- A run over a script comes to an end. Each of its requests finds the script as the requests before
it have left it and takes the reply in front, so that the replies not taken are the end of the script.
There is a request for every reply taken, and one more exactly if the run ends, and ends well, because
the script is used up. -/
theorem request_budget (l : Scripted β υ) :
    let bound := l.replies.length + 1
    let sends := sendsUpTo bound l
    let l' : Scripted β υ := l.run.2
    runUpTo bound l = (some l.run.1, l') ∧
    l.Carries sends l' ∧
    l'.log.sent = l.log.sent ++ sends.map (·.request) ∧
    (∀ i s, sends[i]? = some s → replies s.loop = l.replies.drop i) ∧
    (∃ taken, l.replies = taken ++ l'.replies ∧
      sends.length = taken.length + if exhausts sends then 1 else 0) ∧
    (exhausts sends = true → l'.replies = [] ∧ ∃ report, l.run.1 = .ok report) ∧
    sends.length ≤ l.replies.length + 1 := by
  intro bound sends l'
  have hrun := l.runUpTo_eq_run
  have hcarries : l.Carries sends l' := by
    have h := l.carries_runUpTo bound
    rwa [hrun] at h
  have hanswered : Answered (some l.run.1) sends := by
    have h := l.answered_runUpTo bound
    rwa [hrun] at h
  obtain ⟨hleft, hsent, hfound⟩ := Bridge.Carries.replies hcarries
  have hreplies : l'.replies = l.replies.drop sends.length := by
    rw [List.length_map] at hleft
    exact hleft
  -- each request takes one reply, so the i-th finds all replies but the first i
  have heach : ∀ i s, sends[i]? = some s → replies s.loop = l.replies.drop i := by
    intro i s hs
    exact hfound i (s.bridge, s.request) (by rw [List.getElem?_map, hs]; rfl)
  have hlength := length_eq_of_each hanswered heach
  refine ⟨hrun, hcarries, ?_, heach, ⟨l.replies.take sends.length, ?_, hlength⟩, ?_, ?_⟩
  · rw [List.map_map] at hsent
    exact hsent
  · rw [hreplies, List.take_append_drop]
  · intro hexhausts
    refine ⟨?_, ?_⟩
    · rw [hreplies, List.drop_eq_nil_iff]
      rw [if_pos hexhausts, List.length_take] at hlength
      omega
    · obtain ⟨report, hreport⟩ := exists_report_of_exhausts hanswered hexhausts
      exact ⟨report, Option.some.inj hreport⟩
  · rw [List.length_take] at hlength
    split at hlength <;> omega

end CounterLoop

end SensorLink
