import SensorLink.Bridge
import SensorLink.Request

namespace SensorLink

structure RestResponse where
  status : Nat
  body : Bytes
deriving DecidableEq, Repr

def RestResponse.isSuccess (r : RestResponse) : Bool := 200 ≤ r.status && r.status < 300

structure RestClient where
  base : String
deriving DecidableEq, Repr

namespace RestClient

def requestPath : String := "/lorawan-rest/binary_request"

def dropTrailingSlashes (s : String) : String :=
  String.ofList (s.toList.reverse.dropWhile (· = '/')).reverse

def ofUrl (url : String) : RestClient := ⟨dropTrailingSlashes url⟩

def requestUrl (c : RestClient) (e : DevEui) : String :=
  c.base ++ requestPath ++ "?deveui=" ++ e.display

def inspect (c : RestClient) : String :=
  Text.inspectOpenRecord "ProxyRelay" [("bridge_url", Text.quoted c.base)]

end RestClient

/-- Servers as a client meets them: a post yields an answer or none at all. The number of answers
that report success is finite. -/
class RestService (σ : Type) where
  post : σ → String → Bytes → Option RestResponse × σ
  successesLeft : σ → Nat
  successesLeft_post_le (s : σ) (url : String) (body : Bytes) :
    successesLeft (post s url body).2 ≤ successesLeft s
  successesLeft_post_lt (s : σ) (url : String) (body : Bytes) (r : RestResponse) :
    (post s url body).1 = some r → r.isSuccess = true →
      successesLeft (post s url body).2 < successesLeft s

namespace RestClient

variable {σ : Type} [RestService σ]

def post (c : RestClient) (s : σ) (r : Request) : Option RestResponse × σ :=
  RestService.post s (c.requestUrl r.devEui) r.payload

end RestClient

namespace RestResponse

/-- A success hands its body to the resolver; any other status is the intermediary's refusal. -/
def outcome (r : RestResponse) : SendOutcome :=
  if r.isSuccess then { resolutions := [r.body], status := .ok } else { status := .connectorError }

/-- The outcome of a post; without an answer there is no connection. -/
def outcomeOf : Option RestResponse → SendOutcome
  | some r => r.outcome
  | none => { status := .noConnection }

theorem isSuccess_of_answers {answer : Option RestResponse}
    (h : (outcomeOf answer).answers = true) : ∃ r, answer = some r ∧ r.isSuccess = true := by
  cases answer with
  | none => simp [outcomeOf, SendOutcome.answers, SendOutcome.result, Except.isOk, Except.toBool] at h
  | some r =>
    cases hr : r.isSuccess with
    | true => exact ⟨r, rfl, hr⟩
    | false => simp [outcomeOf, outcome, hr, SendOutcome.answers, SendOutcome.result, Except.isOk,
        Except.toBool] at h

end RestResponse

/-- The transport of a sensor that reaches the bridge itself. -/
structure RestTransport (σ : Type) where
  client : RestClient
  devEui : DevEui
  service : σ

namespace RestTransport

variable {σ : Type}

def inspect (t : RestTransport σ) : String :=
  Text.inspectRecord "HttpTransport" [("relay", t.client.inspect), ("dev_eui", t.devEui.inspect)]

variable [RestService σ]

def send (t : RestTransport σ) (request : Bytes) : SendOutcome × RestTransport σ :=
  let (answer, service) := t.client.post t.service ⟨t.devEui, request⟩
  (RestResponse.outcomeOf answer, { t with service })

instance : Transport (RestTransport σ) := ⟨send⟩

instance : FiniteTransport (RestTransport σ) where
  answersLeft t := RestService.successesLeft t.service
  answersLeft_send_le t request := RestService.successesLeft_post_le t.service _ request
  answersLeft_send_lt t request h := by
    obtain ⟨r, hr, hs⟩ := RestResponse.isSuccess_of_answers h
    exact RestService.successesLeft_post_lt t.service _ request r hr hs

def requestOnce (t : RestTransport σ) (request : Bytes) :
    Except BridgeError Bytes × RestTransport σ :=
  let (result, bridge) := Bridge.request { transport := t } request
  (result, bridge.transport)

end RestTransport

end SensorLink
