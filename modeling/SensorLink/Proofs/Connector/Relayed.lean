import SensorLink.Connector
import SensorLink.Proofs.Frame.Stream

namespace SensorLink

/-- A service whose outcomes are given beforehand and that notes what is posted to it. Behind the last
outcome every post fails. -/
structure OutcomeScript where
  outcomes : List (Option RestResponse)
  posts : List (String × Bytes) := []
deriving DecidableEq, Repr

namespace OutcomeScript

def post (s : OutcomeScript) (url : String) (body : Bytes) :
    Option RestResponse × OutcomeScript :=
  (s.outcomes.head?.join, { outcomes := s.outcomes.tail, posts := s.posts ++ [(url, body)] })

instance : RestService OutcomeScript where
  post := post
  successesLeft s := s.outcomes.length
  successesLeft_post_le s url body := by simp [post]
  successesLeft_post_lt s url body r h _ := by
    cases ho : s.outcomes with
    | nil => simp [post, ho] at h
    | cons outcome rest => simp [post, ho]

end OutcomeScript

namespace Connector

/-- What is posted for a request. -/
def posting (c : Connector) (r : Request) : String × Bytes :=
  (c.client.requestUrl r.devEui, r.payload)

/-- The body of an outcome that is passed on: of a success, unless it is over the maximum. -/
def body? (c : Connector) (outcome : Option RestResponse) : Option Bytes :=
  (outcome.filter fun r => r.isSuccess && r.body.length ≤ c.codec.maxPayload).map (·.body)

/-- The bodies before the first outcome that is not passed on. -/
def passedOn (c : Connector) : List (Option RestResponse) → List Bytes
  | [] => []
  | outcome :: rest =>
    match c.body? outcome with
    | none => []
    | some body => body :: c.passedOn rest

variable {c : Connector} {buffer : Bytes} {r : Request}

theorem body?_eq_some {outcome : Option RestResponse} {body : Bytes} :
    c.body? outcome = some body ↔ ∃ a, outcome = some a ∧ a.isSuccess = true ∧
      a.body.length ≤ c.codec.maxPayload ∧ a.body = body := by
  simp only [body?, Option.map_eq_some_iff, Option.filter_eq_some_iff, Bool.and_eq_true,
    decide_eq_true_eq, and_assoc]

theorem respond_eq (c : Connector) (outcome : Option RestResponse) :
    c.respond outcome = (c.body? outcome).map FrameCodec.responseFrame := by
  rcases outcome with _ | answer
  · rfl
  · by_cases hle : answer.body.length ≤ c.codec.maxPayload
    · have hencode : c.codec.encodeResponse answer.body =
          .ok (FrameCodec.responseFrame answer.body) := FrameCodec.encodeResponse_eq_ok.2 ⟨hle, rfl⟩
      cases hs : answer.isSuccess <;>
        simp [respond, body?, Option.filter, hs, hle, hencode, Except.toOption]
    · have hencode : (c.codec.encodeResponse answer.body).toOption = none := by
        rcases he : c.codec.encodeResponse answer.body with e | frame
        · rfl
        · exact absurd (FrameCodec.encodeResponse_eq_ok.1 he).1 hle
      simp [respond, body?, Option.filter, hle, hencode]

theorem length_le_of_mem_passedOn {outcomes : List (Option RestResponse)} :
    ∀ body ∈ c.passedOn outcomes, body.length ≤ c.codec.maxPayload := by
  induction outcomes with
  | nil => simp [passedOn]
  | cons outcome rest ih =>
    intro body hm
    rw [passedOn] at hm
    rcases hbody : c.body? outcome with _ | first
    · simp [hbody] at hm
    · rw [hbody] at hm
      rcases List.mem_cons.1 hm with rfl | hm
      · obtain ⟨a, -, -, hle, rfl⟩ := body?_eq_some.1 hbody
        exact hle
      · exact ih body hm

theorem passedOn_take_of_none {outcomes : List (Option RestResponse)}
    (h : c.body? outcomes.head?.join = none) (n : Nat) : c.passedOn (outcomes.take n) = [] := by
  rcases outcomes with _ | ⟨outcome, rest⟩
  · simp [passedOn]
  · cases n with
    | zero => rfl
    | succ n =>
      rw [List.take_succ_cons, passedOn, show c.body? outcome = none from h]

theorem passedOn_take_of_some {outcomes : List (Option RestResponse)} {body : Bytes}
    (h : c.body? outcomes.head?.join = some body) (n : Nat) :
    c.passedOn (outcomes.take (n + 1)) = body :: c.passedOn (outcomes.tail.take n) := by
  rcases outcomes with _ | ⟨outcome, rest⟩
  · cases h
  · rw [List.take_succ_cons, passedOn, show c.body? outcome = some body from h]
    rfl

section Pieces

variable {σ : Type} [RestService σ] {s : σ}

theorem serveBuffer_of_error {e : FrameError} (h : c.codec.splitRequest buffer = .error e) :
    c.serveBuffer s buffer = ⟨[], none, s⟩ := by
  rw [serveBuffer]
  split <;> simp_all

theorem serveBuffer_of_none (h : c.codec.splitRequest buffer = .ok none) :
    c.serveBuffer s buffer = ⟨[], some buffer, s⟩ := by
  rw [serveBuffer]
  split <;> simp_all

theorem serveBuffer_frame (h : c.codec.Fits r.payload) (rest : Bytes) :
    c.serveBuffer s (FrameCodec.requestFrame r ++ rest) =
      match c.respond (c.client.post s r).1 with
      | none => ⟨[], none, (c.client.post s r).2⟩
      | some frame =>
        let later := c.serveBuffer (c.client.post s r).2 rest
        { later with written := frame ++ later.written } := by
  have hsplit : c.codec.splitRequest (FrameCodec.requestFrame r ++ rest) = .ok (some (r, rest)) :=
    FrameCodec.splitRequest_eq_some.2 ⟨h, rfl⟩
  rw [serveBuffer]
  split
  · simp_all
  · simp_all
  · rename_i r' rest' hsplit'
    rw [hsplit] at hsplit'
    cases hsplit'
    rfl

theorem serveBuffer_append (c : Connector) (s : σ) (buffer more : Bytes) :
    c.serveBuffer s (buffer ++ more) =
      match (c.serveBuffer s buffer).pending with
      | none => c.serveBuffer s buffer
      | some left =>
        let later := c.serveBuffer (c.serveBuffer s buffer).service (left ++ more)
        { later with written := (c.serveBuffer s buffer).written ++ later.written } := by
  fun_induction serveBuffer c s buffer with
  | case1 s buffer e h =>
    exact serveBuffer_of_error (FrameCodec.splitRequest_append_of_error h)
  | case2 s buffer h => rfl
  | case3 s buffer r rest h answer s' hpost hnone =>
    obtain ⟨hfits, rfl⟩ := FrameCodec.splitRequest_eq_some.1 h
    rw [List.append_assoc, serveBuffer_frame hfits, hpost, hnone]
  | case4 s buffer r rest h answer s' hpost frame hsome _ served ih =>
    obtain ⟨hfits, rfl⟩ := FrameCodec.splitRequest_eq_some.1 h
    rw [List.append_assoc, serveBuffer_frame hfits, hpost, hsome]
    simp only [served]
    rcases hserved : c.serveBuffer s' rest with ⟨written, _ | left, service⟩
    · rw [hserved] at ih
      simp only [ih]
    · rw [hserved] at ih
      simp only [ih, List.append_assoc]

theorem pending_serveBuffer {left : Bytes} (h : (c.serveBuffer s buffer).pending = some left) :
    c.codec.splitRequest left = .ok none := by
  fun_induction serveBuffer c s buffer with
  | case1 s buffer e hsplit => cases h
  | case2 s buffer hsplit =>
    cases h
    exact hsplit
  | case3 s buffer r rest hsplit answer s' hpost hnone => cases h
  | case4 s buffer r rest hsplit answer s' hpost frame hsome _ served ih => exact ih h

/-- However a stream is cut, it is served as if it had arrived at once. -/
theorem serve_eq_serveBuffer (c : Connector) (s : σ) (chunks : List Bytes)
    (h : c.codec.splitRequest buffer = .ok none) :
    c.serve s buffer chunks = c.serveBuffer s (buffer ++ chunks.flatten) := by
  induction chunks generalizing s buffer with
  | nil => rw [serve, List.flatten_nil, List.append_nil, serveBuffer_of_none h]
  | cons chunk chunks ih =>
    rw [serve, List.flatten_cons, ← List.append_assoc, serveBuffer_append c s (buffer ++ chunk)]
    rcases hpending : (c.serveBuffer s (buffer ++ chunk)).pending with _ | left
    · rfl
    · simp only [ih _ (pending_serveBuffer hpending)]

end Pieces

theorem serveBuffer_script (c : Connector) (s : OutcomeScript) {stream : Bytes}
    {d : Drained Request} (h : c.codec.requests.Drains stream d) :
    let bodies := c.passedOn (s.outcomes.take d.items.length)
    let served := c.serveBuffer s stream
    served.service.posts = s.posts ++ (d.items.take (bodies.length + 1)).map c.posting ∧
    served.written = bodies.flatMap FrameCodec.responseFrame ∧
    served.pending =
      if bodies.length < d.items.length ∨ d.fault.isSome then none else some d.rest := by
  obtain ⟨items, fault, rest⟩ := d
  obtain ⟨rfl, hfits, hstop⟩ := h
  -- the script goes on from post to post
  induction items generalizing s with
  | nil =>
    cases fault with
    | none =>
      have hserve : c.serveBuffer s rest = ⟨[], some rest, s⟩ := serveBuffer_of_none hstop
      simp [hserve, passedOn]
    | some e =>
      have hserve : c.serveBuffer s rest = ⟨[], none, s⟩ := serveBuffer_of_error hstop
      simp [hserve, passedOn]
  | cons r items ih =>
    have hr : c.codec.Fits r.payload := hfits r (List.mem_cons_self ..)
    have hpost : c.client.post s r =
        (s.outcomes.head?.join, ⟨s.outcomes.tail, s.posts ++ [c.posting r]⟩) := rfl
    have hstream : (r :: items).flatMap c.codec.requests.frame ++ rest =
        FrameCodec.requestFrame r ++ (items.flatMap c.codec.requests.frame ++ rest) := by
      rw [List.flatMap_cons, List.append_assoc]
      rfl
    have hserve := serveBuffer_frame (s := s) hr (items.flatMap c.codec.requests.frame ++ rest)
    rw [hpost, respond_eq] at hserve
    rcases hbody : c.body? s.outcomes.head?.join with _ | body
    · rw [hbody] at hserve
      simp only [hstream, hserve, passedOn_take_of_none hbody]
      simp
    · have hlater := ih ⟨s.outcomes.tail, s.posts ++ [c.posting r]⟩
        (fun a ha => hfits a (List.mem_cons_of_mem r ha)) hstop
      rw [hbody] at hserve
      obtain ⟨hposts, hwritten, hpending⟩ := hlater
      simp only [hstream, hserve, List.length_cons, passedOn_take_of_some hbody]
      refine ⟨?_, ?_, ?_⟩
      · refine Eq.trans hposts ?_
        rw [List.take_succ_cons, List.map_cons, List.append_assoc]
        rfl
      · exact congrArg (FrameCodec.responseFrame body ++ ·) hwritten
      · refine Eq.trans hpending ?_
        simp only [Nat.add_lt_add_iff_right]

/-- However a sensor's stream is cut, its whole requests are posted in order, each once with its device
and payload, up to the first whose outcome is not passed on. The bodies before that one are written
back as frames, and the connection stays open for more only if there is no such outcome and no refused
header. -/
theorem relays_in_order (c : Connector) (outcomes : List (Option RestResponse))
    (chunks : List Bytes) :
    let stream := c.codec.requests.drain chunks.flatten
    let bodies := c.passedOn (outcomes.take stream.items.length)
    let served := c.serve { outcomes : OutcomeScript } [] chunks
    c.codec.requests.Drains chunks.flatten stream ∧
    served.service.posts = (stream.items.take (bodies.length + 1)).map c.posting ∧
    (∃ frames : List Bytes, bodies.map c.codec.encodeResponse = frames.map .ok ∧
      served.written = frames.flatten) ∧
    served.pending =
      if bodies.length < stream.items.length ∨ stream.fault.isSome then none
      else some stream.rest := by
  intro stream bodies served
  have hdrains := c.codec.requests.drains_drain chunks.flatten
  have hserve : served = c.serveBuffer { outcomes : OutcomeScript } chunks.flatten :=
    c.serve_eq_serveBuffer _ chunks c.codec.requests.split_nil
  obtain ⟨hposts, hwritten, hpending⟩ := c.serveBuffer_script { outcomes } hdrains
  refine ⟨hdrains, ?_, ⟨bodies.map FrameCodec.responseFrame, ?_, ?_⟩, ?_⟩
  · rw [hserve, hposts]
    rfl
  · exact FrameCodec.map_encodeResponse length_le_of_mem_passedOn
  · rw [hserve, hwritten, List.flatMap_def]
  · rw [hserve, hpending]

end Connector

end SensorLink
