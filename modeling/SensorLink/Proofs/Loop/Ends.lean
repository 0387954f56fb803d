import SensorLink.Proofs.Loop.Stored

namespace SensorLink

theorem CounterEngine.poll_ne_enrollRequest : poll ≠ enrollRequest := by decide +kernel

theorem CounterEngine.poll_ne_confirmation (c : Command) : poll ≠ confirmation c := by
  cases c <;> decide +kernel

namespace CounterLoop

open CommandLoop

variable {β υ τ : Type} [Transport τ]

/-- The step that fails a run, as its sends, the error and the state of the loop show it. -/
inductive Failure (sends : List (Sending CounterEngine β υ τ)) : SensorError → LoopState → Prop where
  | start {e : SensorError} (hn : ∀ s ∈ sends, s.request ≠ CounterEngine.poll) :
      Failure sends e .unstarted
  | poll {s : Sending CounterEngine β υ τ} {e : BridgeError} (hs : sends.getLast? = some s)
      (hr : s.request = CounterEngine.poll) (ho : s.outcome.result = .error e) :
      Failure sends (.bridge e) .awaitingResponse
  | persist (hp : ∃ s ∈ sends, s.request = CounterEngine.poll)
      (ha : ∀ s ∈ sends, s.outcome.answers = true) :
      Failure sends .stateNotPersisted .processingCommand
  | confirm {s : Sending CounterEngine β υ τ} {c : Command} {e : BridgeError}
      (hp : ∃ s ∈ sends, s.request = CounterEngine.poll) (hs : sends.getLast? = some s)
      (hr : s.request = CounterEngine.confirmation c) (ho : s.outcome.result = .error e) :
      Failure sends (.bridge e) .processingCommand

/-- What the sends of a run show of its end. -/
structure Course (result : Option Ending) (state : LoopState)
    (sends : List (Sending CounterEngine β υ τ)) : Prop where
  answered : ∀ s ∈ sends.dropLast, s.outcome.answers = true
  going : result = none → ∀ s ∈ sends, s.outcome.answers = true
  exits : ∀ report, result = some (.ok report) →
    state = .exiting ∧ ∃ s, sends.getLast? = some s ∧ s.outcome.status = .exitLoop
  fails : ∀ e, result = some (.error e) →
    Failure sends e state ∧ ∀ s ∈ sends, s.outcome.status ≠ .exitLoop

variable {sends rest : List (Sending CounterEngine β υ τ)} {result : Option Ending}
  {state : LoopState}

theorem status_of_answers {o : SendOutcome} (h : o.answers = true) : o.status ≠ .exitLoop := by
  rw [(SendOutcome.answers_iff.1 h).1]
  simp

theorem answers_of_failure {o : SendOutcome} {e : BridgeError} (h : o.result = .error e) :
    o.answers = false := by
  rw [SendOutcome.answers, h]
  rfl

omit [Transport τ] in
theorem getLast?_of_append {s : Sending CounterEngine β υ τ} (h : rest.getLast? = some s) :
    (sends ++ rest).getLast? = some s := by
  rw [List.getLast?_append, h]
  rfl

theorem Failure.append {e : SensorError} (h : Failure rest e state) (hst : state ≠ .unstarted)
    (ha : ∀ s ∈ sends, s.outcome.answers = true) : Failure (sends ++ rest) e state := by
  have hpoll : (∃ s ∈ rest, s.request = CounterEngine.poll) →
      ∃ s ∈ sends ++ rest, s.request = CounterEngine.poll := fun ⟨s, hm, hr⟩ =>
    ⟨s, List.mem_append_right _ hm, hr⟩
  cases h with
  | start hn => exact absurd rfl hst
  | poll hs hr ho => exact .poll (getLast?_of_append hs) hr ho
  | persist hp hall =>
    exact .persist (hpoll hp) fun s hm => (List.mem_append.1 hm).elim (ha s) (hall s)
  | confirm hp hs hr ho => exact .confirm (hpoll hp) (getLast?_of_append hs) hr ho

theorem Course.append (ha : ∀ s ∈ sends, s.outcome.answers = true) (h : Course result state rest)
    (hs : ∀ e, result = some (.error e) → state ≠ .unstarted) :
    Course result state (sends ++ rest) where
  answered s hm := by
    -- what is last in the rest is last of all, unless the rest is empty
    rw [List.dropLast_append] at hm
    split at hm
    · exact ha s (List.dropLast_subset _ hm)
    · exact (List.mem_append.1 hm).elim (ha s) (h.answered s)
  going hr s hm := (List.mem_append.1 hm).elim (ha s) (h.going hr s)
  exits report hr := by
    obtain ⟨hstate, s, hlast, hexit⟩ := h.exits report hr
    exact ⟨hstate, s, getLast?_of_append hlast, hexit⟩
  fails e hr := by
    obtain ⟨hfail, hne⟩ := h.fails e hr
    exact ⟨hfail.append (hs e hr) ha, fun s hm =>
      (List.mem_append.1 hm).elim (fun hm => status_of_answers (ha s hm)) (hne s)⟩

theorem Course.of_answered (ha : ∀ s ∈ sends, s.outcome.answers = true) :
    Course none state sends where
  answered s hm := ha s (List.dropLast_subset _ hm)
  going _ := ha
  exits _ hr := by cases hr
  fails _ hr := by cases hr

theorem Course.of_loss {e : SensorError} (ha : ∀ s ∈ sends, s.outcome.answers = true)
    (hf : Failure sends e state) : Course (some (.error e)) state sends where
  answered s hm := ha s (List.dropLast_subset _ hm)
  going hr := by cases hr
  exits _ hr := by cases hr
  fails e' hr := by
    cases hr
    exact ⟨hf, fun s hm => status_of_answers (ha s hm)⟩

variable (sends) in
theorem Course.of_exit {s : Sending CounterEngine β υ τ} {report : LoopReport}
    (ha : ∀ s ∈ sends, s.outcome.answers = true)
    (hs : s.outcome.result = .error .exitRequested) :
    Course (some (.ok report)) .exiting (sends ++ [s]) where
  answered s' hm := by
    rw [List.dropLast_concat] at hm
    exact ha s' hm
  going hr := by cases hr
  exits _ _ := ⟨rfl, s, List.getLast?_concat, SendOutcome.result_eq_exit.1 hs⟩
  fails _ hr := by cases hr

variable (sends) in
theorem Course.of_failure {s : Sending CounterEngine β υ τ} {e : BridgeError} {err : SensorError}
    (ha : ∀ s ∈ sends, s.outcome.answers = true) (hs : s.outcome.result = .error e)
    (he : e ≠ .exitRequested) (hf : Failure (sends ++ [s]) err state) :
    Course (some (.error err)) state (sends ++ [s]) where
  answered s' hm := by
    rw [List.dropLast_concat] at hm
    exact ha s' hm
  going hr := by cases hr
  exits _ hr := by cases hr
  fails e' hr := by
    cases hr
    refine ⟨hf, fun s' hm => ?_⟩
    rcases List.mem_append.1 hm with hm | hm
    · exact status_of_answers (ha s' hm)
    · rw [List.mem_singleton.1 hm]
      intro hx
      rw [SendOutcome.result_eq_exit.2 hx] at hs
      exact he (Except.error.inj hs).symm

theorem Failure.state_ne_exiting {e : SensorError} (h : Failure sends e state) :
    state ≠ .exiting := by
  cases h <;> simp

variable [MountBackend β] [StateRecorder υ]

theorem Round.course {l l' : CounterLoop β υ τ} (h : Round l result l' sends) :
    Course result l'.state sends ∧ ∀ e, result = some (.error e) → l'.state ≠ .unstarted := by
  have hone : ∀ {x}, l.asked.outcome.result = .ok x →
      ∀ s ∈ [l.asked], s.outcome.answers = true := fun h _ hm =>
    List.mem_singleton.1 hm ▸ SendOutcome.answers_of_result h
  have hpoll : ∃ s ∈ [l.asked], s.request = CounterEngine.poll :=
    ⟨l.asked, List.mem_singleton_self _, rfl⟩
  cases h with
  | pollExit h => exact ⟨.of_exit [] (by simp) h, by simp⟩
  | pollFailed h he =>
    exact ⟨.of_failure [] (by simp) h he (.poll rfl rfl h), by simp⟩
  | idle h hc => exact ⟨.of_answered (hone h), by simp⟩
  | refused h hc hn hx hf => exact ⟨.of_answered (hone h), by simp⟩
  | cleared h hc hp => exact ⟨.of_answered (hone h), by simp⟩
  | clearLost h hc hp =>
    exact ⟨.of_loss (hone h) (.persist hpoll (hone h)), by simp [stored, forgotten, answered]⟩
  | lost h hc hn hx hf hp =>
    exact ⟨.of_loss (hone h) (.persist hpoll (hone h)), by simp⟩
  | confirmed h hc hn hx hf hp ha =>
    -- both the poll and the confirmation brought a response
    refine ⟨.of_answered fun s hm => ?_, by simp⟩
    rcases List.mem_cons.1 hm with rfl | hm
    · exact SendOutcome.answers_of_result h
    · exact List.mem_singleton.1 hm ▸ SendOutcome.answers_of_result ha
  | confirmExit h hc hn hx hf hp ha =>
    exact ⟨.of_exit [l.asked] (hone h) ha, by simp⟩
  | @confirmFailed response c e h hc hn hx hf hp ha he =>
    refine ⟨.of_failure [l.asked] (hone h) ha he ?_, by simp⟩
    exact .confirm ⟨l.asked, List.mem_cons_self .., rfl⟩ rfl rfl ha

theorem course_cyclesUpTo (bound : Nat) (l : CounterLoop β υ τ) :
    Course (cyclesUpTo bound l).1 (cyclesUpTo bound l).2.state (cyclesSendsUpTo bound l) ∧
      ∀ e, (cyclesUpTo bound l).1 = some (.error e) → (cyclesUpTo bound l).2.state ≠ .unstarted := by
  apply rounds_induction (motive := fun _ result l' sends =>
    Course result l'.state sends ∧ ∀ e, result = some (.error e) → l'.state ≠ .unstarted)
  · exact fun l => ⟨.of_answered (by simp), by simp⟩
  · exact fun l ending l' sends hround => hround.course
  · intro l l' sends result l'' rest hround ⟨hrest, hstarted⟩
    exact ⟨hrest.append (hround.course.1.going rfl) hstarted, hstarted⟩

theorem Opening.course {l l' : CounterLoop β υ τ} (h : Opening l result l' sends)
    (hl : l.state = .unstarted) : Course result l'.state sends := by
  have henroll : ∀ storage, ∀ s ∈ [l.enrolling storage], s.request ≠ CounterEngine.poll := by
    intro storage s hm
    rw [List.mem_singleton.1 hm]
    exact CounterEngine.poll_ne_enrollRequest.symm
  have hone : ∀ {storage x}, (l.enrolling storage).outcome.result = .ok x →
      ∀ s ∈ [l.enrolling storage], s.outcome.answers = true := fun ha _ hm =>
    List.mem_singleton.1 hm ▸ SendOutcome.answers_of_result ha
  cases h with
  | unread h => exact .of_loss (by simp) (hl ▸ .start (by simp))
  | restored h => exact .of_answered (by simp)
  | enrollExit h ha => exact .of_exit [] (by simp) ha
  | enrollFailed h ha he =>
    exact .of_failure [] (by simp) ha he (hl ▸ .start (henroll _))
  | enrolled h ha hp => exact .of_answered (hone ha)
  | enrollLost h ha hp => exact .of_loss (hone ha) (hl ▸ .start (henroll _))

theorem course_runUpTo (bound : Nat) {l : CounterLoop β υ τ} (hl : l.state = .unstarted) :
    Course (runUpTo bound l).1 (runUpTo bound l).2.state (sendsUpTo bound l) := by
  apply run_cases (motive := fun result l' sends => Course result l'.state sends)
  · exact fun ending l' sends hopen => hopen.course hl
  · intro l' sends hopen
    obtain ⟨hrest, hstarted⟩ := course_cyclesUpTo bound l'
    exact hrest.append ((hopen.course hl).going rfl) hstarted

section Failure

omit [MountBackend β] [StateRecorder υ]

variable {e : SensorError}

theorem Failure.unstarted_iff (h : Failure sends e state) :
    state = .unstarted ↔ ∀ s ∈ sends, s.request ≠ CounterEngine.poll := by
  have hpolled : (∃ s ∈ sends, s.request = CounterEngine.poll) →
      ¬ ∀ s ∈ sends, s.request ≠ CounterEngine.poll := fun ⟨s, hm, hr⟩ hn => hn s hm hr
  cases h with
  | start hn => simpa using hn
  | poll hs hr ho => simpa using ⟨_, List.mem_of_getLast? hs, hr⟩
  | persist hp ha => simpa using hpolled hp
  | confirm hp hs hr ho => simpa using hpolled hp

theorem Failure.awaitingResponse_iff (h : Failure sends e state) :
    state = .awaitingResponse ↔ ∃ s, sends.getLast? = some s ∧ s.request = CounterEngine.poll ∧
      s.outcome.answers = false := by
  cases h with
  | start hn =>
    simp only [reduceCtorEq, false_iff]
    rintro ⟨s, hs, hr, -⟩
    exact hn s (List.mem_of_getLast? hs) hr
  | poll hs hr ho => exact ⟨fun _ => ⟨_, hs, hr, answers_of_failure ho⟩, fun _ => rfl⟩
  | persist hp ha =>
    simp only [reduceCtorEq, false_iff]
    rintro ⟨s, hs, -, hf⟩
    rw [ha s (List.mem_of_getLast? hs)] at hf
    cases hf
  | confirm hp hs hr ho =>
    simp only [reduceCtorEq, false_iff]
    rintro ⟨s, hs', hr', -⟩
    rw [hs] at hs'
    cases hs'
    exact CounterEngine.poll_ne_confirmation _ (hr'.symm.trans hr)

theorem Failure.processingCommand_iff (h : Failure sends e state) :
    state = .processingCommand ↔ (∃ s ∈ sends, s.request = CounterEngine.poll) ∧
      (e = .stateNotPersisted ∨ ∃ s c, sends.getLast? = some s ∧
        s.request = CounterEngine.confirmation c ∧ s.outcome.answers = false) := by
  cases h with
  | start hn =>
    simp only [reduceCtorEq, false_iff]
    rintro ⟨⟨s, hm, hr⟩, -⟩
    exact hn s hm hr
  | poll hs hr ho =>
    simp only [reduceCtorEq, false_iff, false_or]
    rintro ⟨-, s, c, hs', hr', -⟩
    rw [hs] at hs'
    cases hs'
    exact CounterEngine.poll_ne_confirmation c (hr.symm.trans hr')
  | persist hp ha => exact ⟨fun _ => ⟨hp, Or.inl rfl⟩, fun _ => rfl⟩
  | confirm hp hs hr ho =>
    exact ⟨fun _ => ⟨hp, Or.inr ⟨_, _, hs, hr, answers_of_failure ho⟩⟩, fun _ => rfl⟩

end Failure

/-- No request follows a send that brought no response, and a run ends well exactly if a send asked
to stop. The loop is then exiting; on an error its state is that of the step that failed: no poll was
sent, or the last send is a poll without a response, or a command was being processed, whose new
state the storage refused or whose confirmation failed. The sends are all that the bridge carries. -/
theorem ends_with_exit (session : Session β υ τ) (engine : CounterEngine) (options : LoopOptions)
    (bound : Nat) :
    let l := unstarted session engine options
    let sends := sendsUpTo bound l
    l.Carries sends (runUpTo bound l).2 ∧
    (∀ s ∈ sends.dropLast, s.outcome.status = .ok ∧ ∃ x ∈ s.outcome.resolutions, x ≠ []) ∧
    ∀ ending l', runUpTo bound l = (some ending, l') →
      ((∃ report, ending = .ok report) ↔ ∃ s ∈ sends, s.outcome.status = .exitLoop) ∧
      (l'.state = .exiting ↔ ∃ report, ending = .ok report) ∧
      ∀ e, ending = .error e →
        (l'.state = .unstarted ↔ ∀ s ∈ sends, s.request ≠ CounterEngine.poll) ∧
        (l'.state = .awaitingResponse ↔
          ∃ s, sends.getLast? = some s ∧ s.request = CounterEngine.poll ∧
            s.outcome.answers = false) ∧
        (l'.state = .processingCommand ↔
          (∃ s ∈ sends, s.request = CounterEngine.poll) ∧
            (e = .stateNotPersisted ∨ ∃ s c, sends.getLast? = some s ∧
              s.request = CounterEngine.confirmation c ∧ s.outcome.answers = false)) := by
  intro l sends
  have h := course_runUpTo bound (l := l) rfl
  refine ⟨l.carries_runUpTo bound, fun s hm => SendOutcome.answers_iff.1 (h.answered s hm),
    fun ending l' hrun => ?_⟩
  rw [hrun] at h
  cases ending with
  | ok report =>
    obtain ⟨hstate, s, hlast, hexit⟩ := h.exits report rfl
    refine ⟨⟨fun _ => ⟨s, List.mem_of_getLast? hlast, hexit⟩, fun _ => ⟨report, rfl⟩⟩,
      ⟨fun _ => ⟨report, rfl⟩, fun _ => hstate⟩, ?_⟩
    intro e he
    cases he
  | error e =>
    obtain ⟨hfail, hne⟩ := h.fails e rfl
    have hnot : ¬ ∃ report, (.error e : Ending) = .ok report := by simp
    -- the state of the loop tells which step failed
    refine ⟨⟨fun hr => absurd hr hnot, fun ⟨s, hm, hx⟩ => absurd hx (hne s hm)⟩,
      ⟨fun hs => absurd hs hfail.state_ne_exiting, fun hr => absurd hr hnot⟩, ?_⟩
    intro e' he
    cases he
    exact ⟨hfail.unstarted_iff, hfail.awaitingResponse_iff, hfail.processingCommand_iff⟩

end CounterLoop

end SensorLink
