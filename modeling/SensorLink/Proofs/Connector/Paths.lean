import SensorLink.Proofs.Bridge.Answers
import SensorLink.Proofs.Connector.Relayed
import SensorLink.Proofs.Frame.Length
import SensorLink.Proofs.Socket.Attempts

namespace SensorLink

namespace Link

variable {c : FrameCodec} {l : Link} {bytes frame response : Bytes}

/-- The next write goes out whole, and certain bytes are what can be read behind it before any
fault; what a further read meets is left open. -/
def Brings (l : Link) (bytes : Bytes) : Prop :=
  ∃ turn turns, l.turns = turn :: turns ∧ turn.cut = none ∧
    (∀ event ∈ l.incoming.events ++ turn.arrivals, event.Calm) ∧
    (l.incoming.events ++ turn.arrivals).flatMap ReadEvent.bytes = bytes

namespace Brings

theorem delivers (h : l.Brings (FrameCodec.responseFrame response ++ bytes)) :
    l.Delivers response := by
  obtain ⟨turn, turns, hturns, hcut, hcalm, hbytes⟩ := h
  exact ⟨turn, turns, _, [], bytes, hturns, hcut, (List.append_nil _).symm, hcalm, hbytes⟩

theorem written_exchange (h : l.Brings bytes) (c : FrameCodec) (frame : Bytes) :
    (l.exchange c frame).2.written = l.written ++ frame := by
  obtain ⟨turn, turns, hturns, hcut, -, -⟩ := h
  simp only [exchange, write, hturns, hcut]

theorem prefix_of_exchange (h : l.Brings bytes) (hok : (l.exchange c frame).1 = .ok response) :
    c.Fits response ∧ FrameCodec.responseFrame response <+: bytes := by
  obtain ⟨turn, turns, hturns, hcut, -, rfl⟩ := h
  simp only [exchange, write, hturns, hcut] at hok
  rcases hread : c.readResponse ⟨l.incoming.events ++ turn.arrivals, turn.dry⟩ with
    ⟨result, incoming⟩
  rw [hread] at hok
  obtain rfl : result = .ok response := hok
  obtain ⟨hfits, hunread⟩ := FrameCodec.readResponse_ok hread
  exact ⟨hfits, incoming.unread, hunread.symm⟩

theorem exchange_eq_ok (h : l.Brings bytes) (frame : Bytes) :
    (l.exchange c frame).1 = .ok response ↔
      ∃ rest, c.splitResponse bytes = .ok (some (response, rest)) := by
  constructor
  · intro hok
    obtain ⟨hfits, rest, hrest⟩ := h.prefix_of_exchange hok
    exact ⟨rest, FrameCodec.splitResponse_eq_some.2 ⟨hfits, hrest.symm⟩⟩
  · rintro ⟨rest, hsplit⟩
    obtain ⟨hfits, rfl⟩ := FrameCodec.splitResponse_eq_some.1 hsplit
    exact exchange_of_delivers h.delivers hfits frame

end Brings

end Link

namespace SocketTransport

variable {t : SocketTransport} {link : Link} {bytes frame request : Bytes}

theorem Fate.result_answered (sent response : Bytes) :
    (Fate.answered sent response).outcome.result =
      if response.isEmpty then .error (.transport .noConnection) else .ok response := by
  cases response <;> rfl

theorem fate_of_brings (hstop : t.stopRequested = false) (hlink : t.connect.1 = some link)
    (hframe : t.codec.encodeRequest ⟨t.devEui, request⟩ = .ok frame) (h : link.Brings bytes) :
    t.fate request =
      match t.codec.splitResponse bytes with
      | .ok (some (response, _)) => .answered frame response
      | _ => .lost frame := by
  rcases hexchange : link.exchange t.codec frame with ⟨result, after⟩
  have hwritten : after.written = link.written ++ frame := by
    rw [← h.written_exchange t.codec frame, hexchange]
  have hanswered (response : Bytes) : result = .ok response ↔
      ∃ rest, t.codec.splitResponse bytes = .ok (some (response, rest)) := by
    rw [← h.exchange_eq_ok frame, hexchange]
  simp only [fate, hstop, hframe, hlink, hexchange, hwritten, List.drop_left, Bool.false_eq_true,
    if_false]
  cases result with
  | error e =>
    change Fate.lost frame = _
    split
    · rename_i response rest hsplit
      cases (hanswered response).2 ⟨rest, hsplit⟩
    · rfl
  | ok response =>
    obtain ⟨rest, hsplit⟩ := (hanswered response).1 rfl
    rw [hsplit]

theorem Sends.writtenPerLink {t' : SocketTransport} {fate : Fate} (h : Sends t request fate t')
    (hcarried : fate.isCarried = true) :
    t'.writtenPerLink = t.finished ++ [t.writing ++ fate.sent] := by
  cases h with
  | stopped hstop => cases hcarried
  | refused hmax => cases hcarried
  | unreached hmax hlink hlink' hover => cases hcarried
  | lost hframe hsent hlink' hover hread =>
    rw [SocketTransport.writtenPerLink, hlink', hover]
    exact List.append_nil _
  | answered hframe hfits hlink' hover hwritten hread hread' =>
    obtain ⟨link', hlink'⟩ := Option.isSome_iff_exists.1 hlink'
    rw [writing, hlink'] at hwritten
    rw [SocketTransport.writtenPerLink, hlink', hover]
    exact congrArg (fun written => t.finished ++ [written]) hwritten

end SocketTransport

namespace Bridge

/-- The request failed, and the status is what an engine sees of it. -/
def FailsWith (status : TransportStatus) (result : Except BridgeError Bytes) : Prop :=
  ∃ e, result = .error e ∧ e.status = status

end Bridge

namespace RestResponse

variable {a : RestResponse}

theorem isSuccess_iff : a.isSuccess = true ↔ 200 ≤ a.status ∧ a.status < 300 := by
  rw [isSuccess, Bool.and_eq_true, decide_eq_true_eq, decide_eq_true_eq]

theorem result_of_body (hs : a.isSuccess = true) (hne : a.body ≠ []) :
    (outcomeOf (some a)).result = .ok a.body := by
  rw [SendOutcome.result_eq_ok, outcomeOf, outcome, if_pos hs]
  simp [hne]

theorem failsWith_of_empty (hs : a.isSuccess = true) (hempty : a.body = []) :
    Bridge.FailsWith .noConnection (outcomeOf (some a)).result := by
  rw [outcomeOf, outcome, if_pos hs, hempty]
  exact ⟨.noResponse, rfl, rfl⟩

theorem failsWith_of_refusal (hs : a.isSuccess = false) :
    Bridge.FailsWith .connectorError (outcomeOf (some a)).result := by
  rw [outcomeOf, outcome, hs]
  exact ⟨.transport .connectorError, rfl, rfl⟩

end RestResponse

namespace Connector

variable {σ : Type} [RestService σ] {k : Connector} {s : σ} {r : Request} {chunks : List Bytes}

/-- A connection that carries one request is left open exactly if its answer is passed on. -/
theorem serve_requestFrame (s : σ) (h : k.codec.Fits r.payload)
    (hchunks : chunks.flatten = FrameCodec.requestFrame r) :
    k.serve s [] chunks =
      match k.body? (k.client.post s r).1 with
      | none => ⟨[], none, (k.client.post s r).2⟩
      | some body => ⟨FrameCodec.responseFrame body, some [], (k.client.post s r).2⟩ := by
  have hframe := serveBuffer_frame (c := k) (s := s) h []
  rw [List.append_nil, respond_eq] at hframe
  rw [serve_eq_serveBuffer k s chunks k.codec.requests.split_nil, List.nil_append, hchunks, hframe]
  cases k.body? (k.client.post s r).1 with
  | none => rfl
  | some body =>
    simp only [Option.map_some, serveBuffer_of_none k.codec.requests.split_nil, List.append_nil]

theorem service_serve (s : σ) (h : k.codec.Fits r.payload)
    (hchunks : chunks.flatten = FrameCodec.requestFrame r) :
    (k.serve s [] chunks).service = (k.client.post s r).2 := by
  rw [serve_requestFrame s h hchunks]
  cases k.body? (k.client.post s r).1 <;> rfl

theorem written_serve (s : σ) (h : k.codec.Fits r.payload)
    (hchunks : chunks.flatten = FrameCodec.requestFrame r) :
    (k.serve s [] chunks).written =
      ((k.body? (k.client.post s r).1).map FrameCodec.responseFrame).getD [] := by
  rw [serve_requestFrame s h hchunks]
  cases k.body? (k.client.post s r).1 <;> rfl

/-- One request passes from a transport to a connector: the transport is not asked to stop, the
connector gets what is written for the request, and what it writes back is all that the connection
brings, both in any pieces. -/
structure Carries (k : Connector) (s : σ) (t : SocketTransport) (request : Bytes) (link : Link)
    (chunks : List Bytes) : Prop where
  running : t.stopRequested = false
  connected : t.connect.1 = some link
  encoded : t.codec.encodeRequest ⟨t.devEui, request⟩ = .ok chunks.flatten
  brings : link.Brings (k.serve s [] chunks).written

/-- What reaches a sensor behind the connector: of a body that is passed on, the bytes that its length
field counts, unless these are none or over the sensor's maximum. -/
def delivered? (k : Connector) (c : FrameCodec) (answer : Option RestResponse) : Option Bytes :=
  ((k.body? answer).map fun body => body.take (body.length % 2 ^ 32)).filter
    fun bytes => bytes.length ≤ c.maxPayload && !bytes.isEmpty

section Delivered

variable {c : FrameCodec} {a : RestResponse} {answer : Option RestResponse} {body bytes : Bytes}

theorem delivered?_eq_some : k.delivered? c answer = some bytes ↔
    ∃ body, k.body? answer = some body ∧ body.take (body.length % 2 ^ 32) = bytes ∧ bytes ≠ [] ∧
      bytes.length ≤ c.maxPayload := by
  simp only [delivered?, Option.filter_eq_some_iff, Option.map_eq_some_iff, Bool.and_eq_true,
    decide_eq_true_eq, Bool.not_eq_true', List.isEmpty_eq_false_iff]
  constructor
  · rintro ⟨⟨body, hbody, hbytes⟩, hmax, hne⟩
    exact ⟨body, hbody, hbytes, hne, hmax⟩
  · rintro ⟨body, hbody, hbytes, hne, hmax⟩
    exact ⟨⟨body, hbody, hbytes⟩, hmax, hne⟩

theorem delivered?_of_narrow
    (hwidth : ∀ body, k.body? answer = some body → body.length < 2 ^ 32) :
    k.delivered? c answer = some body ↔
      ∃ a, answer = some a ∧ a.isSuccess = true ∧ a.body = body ∧ body ≠ [] ∧
        body.length ≤ k.codec.maxPayload ∧ body.length ≤ c.maxPayload := by
  rw [delivered?_eq_some]
  constructor
  · rintro ⟨sent, hsent, htake, hne, hc⟩
    rw [FrameCodec.take_mod_eq_self.2 (hwidth sent hsent)] at htake
    subst htake
    obtain ⟨a, rfl, hs, hk, rfl⟩ := body?_eq_some.1 hsent
    exact ⟨a, rfl, hs, rfl, hne, hk, hc⟩
  · rintro ⟨a, rfl, hs, rfl, hne, hk, hc⟩
    have hsent : k.body? (some a) = some a.body := body?_eq_some.2 ⟨a, rfl, hs, hk, rfl⟩
    exact ⟨a.body, hsent, FrameCodec.take_mod_eq_self.2 (hwidth _ hsent), hne, hc⟩

theorem not_delivered (hwidth : ∀ body, k.body? (some a) = some body → body.length < 2 ^ 32)
    (h : a.isSuccess = false ∨ a.body = [] ∨
      k.codec.maxPayload < a.body.length ∨ c.maxPayload < a.body.length) :
    k.delivered? c (some a) = none := by
  rw [Option.eq_none_iff_forall_ne_some]
  intro x hx
  obtain ⟨a', ha', hs, rfl, hne, hk, hc⟩ := (delivered?_of_narrow hwidth).1 hx
  cases ha'
  rcases h with h | h | h | h
  · rw [h] at hs
    cases hs
  · exact hne h
  · omega
  · omega

end Delivered

namespace Carries

variable {t : SocketTransport} {request : Bytes} {link : Link}

theorem requestFrame_eq (h : k.Carries s t request link chunks) :
    chunks.flatten = FrameCodec.requestFrame ⟨t.devEui, request⟩ :=
  (FrameCodec.encodeRequest_eq_ok.1 h.encoded).2

theorem fate_eq (h : k.Carries s t request link chunks) (hfits : k.codec.Fits request) :
    t.fate request =
      match t.codec.splitResponse
        (((k.body? (k.client.post s ⟨t.devEui, request⟩).1).map
          FrameCodec.responseFrame).getD []) with
      | .ok (some (response, _)) => .answered chunks.flatten response
      | _ => .lost chunks.flatten := by
  have hbrings := h.brings
  rw [written_serve s hfits h.requestFrame_eq] at hbrings
  exact SocketTransport.fate_of_brings h.running h.connected h.encoded hbrings

theorem writtenPerLink_send (h : k.Carries s t request link chunks) (hfits : k.codec.Fits request) :
    (t.send request).2.writtenPerLink = t.finished ++ [t.writing ++ chunks.flatten] := by
  have hsends := (t.send_sends request).2
  have hfate : (t.fate request).isCarried = true ∧ (t.fate request).sent = chunks.flatten := by
    rw [h.fate_eq hfits]
    split <;> exact ⟨rfl, rfl⟩
  rw [hsends.writtenPerLink hfate.1, hfate.2]

theorem result_send (h : k.Carries s t request link chunks) (hfits : k.codec.Fits request) :
    (t.send request).1.result =
      match k.delivered? t.codec (k.client.post s ⟨t.devEui, request⟩).1 with
      | some bytes => .ok bytes
      | none => .error (.transport .noConnection) := by
  rw [(t.send_sends request).1, h.fate_eq hfits, delivered?]
  rcases hbody : k.body? (k.client.post s ⟨t.devEui, request⟩).1 with _ | body
  · rw [Option.map_none, Option.getD_none, FrameCodec.splitResponse_of_short (by decide)]
    rfl
  · have htake : (body.take (body.length % 2 ^ 32)).length = body.length % 2 ^ 32 :=
      List.length_take_of_le (Nat.mod_le _ _)
    rw [Option.map_some, Option.getD_some, FrameCodec.splitResponse_written]
    by_cases hmax : t.codec.maxPayload < body.length % 2 ^ 32
    · have hle : ¬ body.length % 2 ^ 32 ≤ t.codec.maxPayload := Nat.not_le.2 hmax
      simp only [if_pos hmax, Option.map_some, Option.filter, htake, hle, decide_false,
        Bool.false_and]
      rfl
    · have hle : body.length % 2 ^ 32 ≤ t.codec.maxPayload := Nat.not_lt.1 hmax
      simp only [if_neg hmax, SocketTransport.Fate.result_answered, Option.map_some, Option.filter,
        htake, hle, decide_true, Bool.true_and]
      cases body.take (body.length % 2 ^ 32) <;> rfl

theorem result_eq_ok (h : k.Carries s t request link chunks) (hfits : k.codec.Fits request)
    {x : Bytes} : (t.send request).1.result = .ok x ↔
      k.delivered? t.codec (k.client.post s ⟨t.devEui, request⟩).1 = some x := by
  rw [h.result_send hfits]
  cases k.delivered? t.codec (k.client.post s ⟨t.devEui, request⟩).1 <;> simp

theorem failsWith_send (h : k.Carries s t request link chunks) (hfits : k.codec.Fits request)
    (hnone : k.delivered? t.codec (k.client.post s ⟨t.devEui, request⟩).1 = none) :
    Bridge.FailsWith .noConnection (t.send request).1.result := by
  rw [h.result_send hfits, hnone]
  exact ⟨_, rfl, rfl⟩

end Carries

/-- Both paths post the request once to the same URL, however the connection cuts it and the answer.
A success with a body that is neither empty nor over a maximum comes back as that body on both. One
that is over a maximum comes back on the direct path only; of the rest neither brings a response, and
the direct path tells a refusal of the bridge from an exchange that failed. So what the connection
brings, the direct path brings too. -/
theorem paths_agree {t : SocketTransport} {request : Bytes} {link : Link}
    (h : k.Carries s t request link chunks) (hmax : request.length ≤ k.codec.maxPayload)
    (hrequest : request.length < 2 ^ 32)
    (hbody : ∀ a, (RestService.post s (k.client.requestUrl t.devEui) request).1 = some a →
      a.body.length ≤ k.codec.maxPayload → a.body.length < 2 ^ 32) :
    let answer := (RestService.post s (k.client.requestUrl t.devEui) request).1
    let after := (RestService.post s (k.client.requestUrl t.devEui) request).2
    let relayed := ({ transport := t } : Bridge SocketTransport).request request
    let direct :=
      ({ transport := ⟨k.client, t.devEui, s⟩ } : Bridge (RestTransport σ)).request request
    ((k.serve s [] chunks).service = after ∧ direct.2.transport.service = after ∧
      relayed.2.transport.writtenPerLink = t.finished ++ [t.writing ++ chunks.flatten]) ∧
    (∀ a, answer = some a → 200 ≤ a.status → a.status < 300 →
      (a.body ≠ [] → a.body.length ≤ k.codec.maxPayload → a.body.length ≤ t.codec.maxPayload →
        relayed.1 = .ok a.body ∧ direct.1 = .ok a.body) ∧
      (k.codec.maxPayload < a.body.length ∨ t.codec.maxPayload < a.body.length →
        Bridge.FailsWith .noConnection relayed.1 ∧ direct.1 = .ok a.body) ∧
      (a.body = [] →
        Bridge.FailsWith .noConnection relayed.1 ∧ Bridge.FailsWith .noConnection direct.1)) ∧
    (∀ a, answer = some a → a.status < 200 ∨ 300 ≤ a.status →
      Bridge.FailsWith .noConnection relayed.1 ∧ Bridge.FailsWith .connectorError direct.1) ∧
    (answer = none →
      Bridge.FailsWith .noConnection relayed.1 ∧ Bridge.FailsWith .noConnection direct.1) ∧
    ∀ x, relayed.1 = .ok x → direct.1 = .ok x := by
  intro answer after relayed direct
  have hfits : k.codec.Fits request := ⟨hmax, hrequest⟩
  have hwidth : ∀ body, k.body? answer = some body → body.length < 2 ^ 32 := by
    intro body hb
    obtain ⟨a, ha, -, hk, rfl⟩ := body?_eq_some.1 hb
    exact hbody a ha hk
  have hok (x : Bytes) : relayed.1 = .ok x ↔ k.delivered? t.codec answer = some x :=
    h.result_eq_ok hfits
  have hfails (hnone : k.delivered? t.codec answer = none) :
      Bridge.FailsWith .noConnection relayed.1 := h.failsWith_send hfits hnone
  have hdirect : direct.1 = (RestResponse.outcomeOf answer).result := rfl
  -- the answer decides both results: by what is delivered of it, and by what a post makes of it
  refine ⟨⟨?_, rfl, h.writtenPerLink_send hfits⟩, ?_, ?_, ?_, ?_⟩
  · exact service_serve (r := ⟨t.devEui, request⟩) s hfits h.requestFrame_eq
  · intro a ha hlow hhigh
    have hs := RestResponse.isSuccess_iff.2 ⟨hlow, hhigh⟩
    rw [ha] at hok hfails hdirect hwidth
    rw [hdirect]
    refine ⟨fun hne hk ht => ⟨?_, RestResponse.result_of_body hs hne⟩,
      fun hover => ⟨hfails (not_delivered hwidth (.inr (.inr hover))), ?_⟩,
      fun hempty => ⟨hfails (not_delivered hwidth (.inr (.inl hempty))),
        RestResponse.failsWith_of_empty hs hempty⟩⟩
    · exact (hok a.body).2 ((delivered?_of_narrow hwidth).2 ⟨a, rfl, hs, rfl, hne, hk, ht⟩)
    · have hpos : 0 < a.body.length := hover.elim Nat.zero_lt_of_lt Nat.zero_lt_of_lt
      exact RestResponse.result_of_body hs (List.ne_nil_of_length_pos hpos)
  · intro a ha hstatus
    have hs : a.isSuccess = false := by
      rw [Bool.eq_false_iff, ne_eq, RestResponse.isSuccess_iff]
      omega
    rw [ha] at hfails hdirect hwidth
    rw [hdirect]
    exact ⟨hfails (not_delivered hwidth (.inl hs)), RestResponse.failsWith_of_refusal hs⟩
  · intro hnone
    rw [hnone] at hfails hdirect
    rw [hdirect]
    exact ⟨hfails rfl, ⟨.transport .noConnection, rfl, rfl⟩⟩
  · intro x hx
    obtain ⟨a, ha, hs, rfl, hne, -, -⟩ := (delivered?_of_narrow hwidth).1 ((hok x).1 hx)
    rw [hdirect, ha]
    exact RestResponse.result_of_body hs hne

/-- A request in three pieces, and an answer that comes back in as many with an interruption. -/
theorem paths_agree_in_pieces :
    let k : Connector := { client := ⟨"http://bridge"⟩ }
    let s : OutcomeScript := { outcomes := [some ⟨200, [8, 9]⟩] }
    let link : Link :=
      { turns := [{ arrivals := [.data [2, 0], .fault .interrupted, .data [0, 0, 8], .data [9]] }] }
    let t : SocketTransport := { devEui := ⟨1⟩, link := some link, dials := [] }
    let chunks : List Bytes := [[1, 0, 0], [0, 0, 0, 0, 0, 1, 0, 0, 0], [7]]
    let direct :=
      ({ transport := ⟨k.client, ⟨1⟩, s⟩ } : Bridge (RestTransport OutcomeScript)).request [7]
    k.Carries s t [7] link chunks ∧
    (({ transport := t } : Bridge SocketTransport).request [7]).1 = .ok [8, 9] ∧
    direct.1 = .ok [8, 9] ∧
    (k.serve s [] chunks).service.posts = [(k.client.requestUrl ⟨1⟩, [7])] ∧
    direct.2.transport.service.posts = [(k.client.requestUrl ⟨1⟩, [7])] := by
  intro k s link t chunks direct
  have hfits : k.codec.Fits [7] := by decide
  have hwritten : (k.serve s [] chunks).written = [2, 0, 0, 0, 8, 9] := by
    rw [written_serve (r := ⟨⟨1⟩, [7]⟩) s hfits (by rfl)]
    rfl
  have hcarries : k.Carries s t [7] link chunks := by
    refine ⟨rfl, rfl, FrameCodec.encodeRequest_eq_ok.2 ⟨by decide, by decide⟩, ?_⟩
    rw [hwritten]
    exact ⟨_, _, rfl, rfl, by decide, by rfl⟩
  have hanswer : (RestService.post s (k.client.requestUrl ⟨1⟩) [7]).1 = some ⟨200, [8, 9]⟩ := rfl
  obtain ⟨⟨hserved, hposted, -⟩, hsuccess, -⟩ := paths_agree hcarries (by decide) (by decide) (by
    intro a ha _
    rw [hanswer] at ha
    cases ha
    decide)
  obtain ⟨hrelayed, hdirect⟩ :=
    (hsuccess _ hanswer (by decide) (by decide)).1 (by decide) (by decide) (by decide)
  refine ⟨hcarries, hrelayed, hdirect, ?_, ?_⟩
  · rw [hserved]
    rfl
  · rw [hposted]
    rfl

/-- Of a body of 2^32 bytes and `n` more the length field counts `n`. So many come back over the
connection as if they were the body, also where the whole body is over the sensor's maximum. -/
theorem Carries.result_of_wide {t : SocketTransport} {request body : Bytes} {link : Link} {n : Nat}
    (h : k.Carries s t request link chunks) (hfits : k.codec.Fits request)
    (hbody : k.body? (k.client.post s ⟨t.devEui, request⟩).1 = some body)
    (hlen : body.length = 2 ^ 32 + n) (hn : n < 2 ^ 32) :
    (t.send request).1.result =
      if n = 0 ∨ t.codec.maxPayload < n then .error (.transport .noConnection)
      else .ok (body.take n) := by
  have hfield : body.length % 2 ^ 32 = n := by
    rw [hlen, Nat.add_mod_left, Nat.mod_eq_of_lt hn]
  have htake : (body.take n).length = n := List.length_take_of_le (by omega)
  split
  · rename_i hnone
    have hnot : k.delivered? t.codec (k.client.post s ⟨t.devEui, request⟩).1 = none := by
      rw [Option.eq_none_iff_forall_ne_some]
      intro bytes hbytes
      obtain ⟨sent, hsent, hcut, hne, hmax⟩ := delivered?_eq_some.1 hbytes
      obtain rfl := Option.some.inj (hbody.symm.trans hsent)
      rw [hfield] at hcut
      subst hcut
      have hpos := List.length_pos_iff.2 hne
      omega
    rw [h.result_send hfits, hnot]
  · rename_i hsome
    refine (h.result_eq_ok hfits).2 (delivered?_eq_some.2 ⟨body, hbody, by rw [hfield], ?_, ?_⟩)
    · exact List.ne_nil_of_length_pos (by omega)
    · omega

theorem carries_body (body : Bytes) (c : FrameCodec) (hbody : 0 < body.length)
    (hc : 0 < c.maxPayload) :
    let k : Connector := { client := ⟨"http://bridge"⟩, codec := ⟨body.length⟩ }
    let s : OutcomeScript := { outcomes := [some ⟨200, body⟩] }
    let link : Link := { turns := [{ arrivals := [.data (leBytes 4 body.length), .data body] }] }
    let t : SocketTransport := { devEui := ⟨1⟩, codec := c, link := some link, dials := [] }
    k.Carries s t [7] link [[1, 0, 0, 0, 0, 0, 0, 0, 1, 0, 0, 0, 7]] ∧ k.codec.Fits [7] ∧
    k.body? (k.client.post s ⟨t.devEui, [7]⟩).1 = some body ∧
    (({ transport := ⟨k.client, ⟨1⟩, s⟩ } : Bridge (RestTransport OutcomeScript)).request [7]).1 =
      .ok body := by
  intro k s link t
  have hfits : k.codec.Fits [7] := ⟨hbody, by decide⟩
  have hanswer : k.body? (k.client.post s ⟨t.devEui, [7]⟩).1 = some body :=
    body?_eq_some.2 ⟨⟨200, body⟩, rfl, rfl, Nat.le_refl _, rfl⟩
  have hchunks : List.flatten [[1, 0, 0, 0, 0, 0, 0, 0, 1, 0, 0, 0, 7]] =
      FrameCodec.requestFrame ⟨⟨1⟩, [7]⟩ := by decide
  refine ⟨⟨rfl, rfl, FrameCodec.encodeRequest_eq_ok.2 ⟨hc, hchunks⟩, ?_⟩, hfits, hanswer, ?_⟩
  · rw [written_serve s hfits hchunks, hanswer, Option.map_some, Option.getD_some]
    exact ⟨_, _, rfl, rfl, by simp [link, ReadEvent.Calm],
      by simp [link, ReadEvent.bytes, FrameCodec.responseFrame, FrameCodec.lengthWidth]⟩
  · exact RestResponse.result_of_body rfl (List.ne_nil_of_length_pos hbody)

/-- A body of 2^32 bytes and one more, over the sensor's maximum: a direct post brings it, and over the
connection its first byte comes back as the response. -/
theorem body_cut_by_length_field :
    let body : Bytes := List.replicate (2 ^ 32 + 1) 0
    let k : Connector := { client := ⟨"http://bridge"⟩, codec := ⟨2 ^ 32 + 1⟩ }
    let s : OutcomeScript := { outcomes := [some ⟨200, body⟩] }
    let link : Link := { turns := [{ arrivals := [.data [1, 0, 0, 0], .data body] }] }
    let t : SocketTransport := { devEui := ⟨1⟩, link := some link, dials := [] }
    k.Carries s t [7] link [[1, 0, 0, 0, 0, 0, 0, 0, 1, 0, 0, 0, 7]] ∧
    body.length ≤ k.codec.maxPayload ∧ t.codec.maxPayload < body.length ∧
    (({ transport := t } : Bridge SocketTransport).request [7]).1 = .ok [0] ∧
    (({ transport := ⟨k.client, ⟨1⟩, s⟩ } : Bridge (RestTransport OutcomeScript)).request [7]).1 =
      .ok body ∧ body ≠ [0] := by
  intro body
  have hlen : body.length = 2 ^ 32 + 1 := List.length_replicate
  have htake : body.take 1 = [0] := by
    rw [List.take_replicate]
    rfl
  -- Nothing below may look at the bytes themselves.
  clear_value body
  intro k s link t
  have hfield : leBytes 4 (2 ^ 32 + 1) = [1, 0, 0, 0] := by decide
  have h := carries_body body {} (by omega) (by decide)
  simp only [hlen, hfield] at h
  obtain ⟨hcarries, hfits, hbody, hdirect⟩ := h
  refine ⟨hcarries, Nat.le_of_eq hlen, ?_, ?_, hdirect, ?_⟩
  · rw [hlen]
    change 65536 < 2 ^ 32 + 1
    decide
  · have hwide := hcarries.result_of_wide hfits hbody hlen (by decide)
    rw [htake] at hwide
    exact hwide
  · intro heq
    rw [heq] at hlen
    cases hlen

end Connector

end SensorLink
