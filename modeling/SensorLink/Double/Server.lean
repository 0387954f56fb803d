import SensorLink.Rest.Message

namespace SensorLink

inductive ServerAnswer where
  /-- A status line and a body, of which the last `missing` bytes are announced but never sent. -/
  | reply (status : Nat) (body : Bytes) (missing : Nat)
  | hangup
  /-- No answer comes before the client gives up. -/
  | stall
deriving DecidableEq, Repr

structure SeenPost where
  target : String
  body : Bytes
deriving DecidableEq, Repr

/-- What a client makes of an answer: a status of three digits and a whole body, or nothing. -/
def ServerAnswer.response? : ServerAnswer → Option RestResponse
  | .reply status body missing =>
    if status < 100 ∨ 999 < status then none
    else if RestResponse.hasNoBody status then some ⟨status, []⟩
    else if missing = 0 then some ⟨status, body⟩ else none
  | _ => none

structure ScriptedServer where
  /-- Scheme and authority that lead to the server; without them nothing does. -/
  origin : Option String
  answers : List ServerAnswer
  seen : List SeenPost := []
deriving DecidableEq, Repr

namespace ScriptedServer

def target? (s : ScriptedServer) (url : String) : Option String :=
  match s.origin with
  | none => none
  | some origin =>
    if origin.toList.isPrefixOf url.toList then
      Target.ofText origin.utf8ByteSize (url.toList.drop origin.length)
    else none

/-- Once the script is used up, the server is unavailable. -/
def post (s : ScriptedServer) (url : String) (body : Bytes) :
    Option RestResponse × ScriptedServer :=
  match s.target? url with
  | none => (none, s)
  | some target =>
    let seen := s.seen ++ [SeenPost.mk target body]
    match s.answers with
    | [] => (some ⟨503, []⟩, { s with seen })
    | answer :: rest => (answer.response?, { s with answers := rest, seen })

instance : RestService ScriptedServer where
  post := post
  successesLeft s := s.answers.length
  successesLeft_post_le s url body := by
    unfold post
    split
    · exact Nat.le_refl _
    · split <;> simp_all
  successesLeft_post_lt s url body r hr hs := by
    unfold post at hr ⊢
    split at hr
    · simp at hr
    · split at hr
      · simp only [Option.some.injEq] at hr
        subst hr
        simp [RestResponse.isSuccess] at hs
      · simp_all

end ScriptedServer

end SensorLink
