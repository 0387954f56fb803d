import SensorLink.Storage.Config

namespace SensorLink

inductive Acceptance where
  | fixed (accept : Bool)
  | upTo (length : Nat)
deriving DecidableEq, Repr

def Acceptance.admits (a : Acceptance) (state : Bytes) : Bool :=
  match a with
  | .fixed accept => accept
  | .upTo length => state.length ≤ length

structure NotingRecorder where
  acceptance : Acceptance := .fixed true
  /-- States handed in, refused ones among them, oldest first. -/
  states : List Bytes := []
deriving DecidableEq, Repr

instance : StateRecorder NotingRecorder where
  update r state := (r.acceptance.admits state, { r with states := r.states ++ [state] })

end SensorLink
