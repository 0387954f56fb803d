import SensorLink.Frame
import SensorLink.Rest

namespace SensorLink

structure Connector where
  client : RestClient
  codec : FrameCodec := {}
deriving DecidableEq, Repr

/-- A sensor's connection after some of its bytes were served. -/
structure Served (σ : Type) where
  /-- Bytes written back. -/
  written : Bytes
  /-- Bytes received but not yet part of a whole frame; `none` once the connection is closed. -/
  pending : Option Bytes
  service : σ

namespace Connector

variable {σ : Type} [RestService σ]

/-- The frame that answers a request, if the bridge answers it with a success that fits. -/
def respond (c : Connector) (answer : Option RestResponse) : Option Bytes :=
  match answer with
  | none => none
  | some r => if r.isSuccess then (c.codec.encodeResponse r.body).toOption else none

def serveBuffer (c : Connector) (s : σ) (buffer : Bytes) : Served σ :=
  match h : c.codec.splitRequest buffer with
  | .error _ => ⟨[], none, s⟩
  | .ok none => ⟨[], some buffer, s⟩
  | .ok (some (r, rest)) =>
    let (answer, s) := c.client.post s r
    match c.respond answer with
    | none => ⟨[], none, s⟩
    | some frame =>
      have := FrameCodec.length_splitRequest h
      let served := c.serveBuffer s rest
      { served with written := frame ++ served.written }
termination_by buffer.length

/-- Serves what arrives on a connection until it is closed or the sensor sends no more. -/
def serve (c : Connector) (s : σ) (buffer : Bytes) : List Bytes → Served σ
  | [] => ⟨[], some buffer, s⟩
  | chunk :: rest =>
    let first := c.serveBuffer s (buffer ++ chunk)
    match first.pending with
    | none => first
    | some buffer =>
      let served := c.serve first.service buffer rest
      { served with written := first.written ++ served.written }

/-- Serves sensors that connect one after another; the result holds what is written to each. -/
def serveAll (c : Connector) (s : σ) : List (List Bytes) → List Bytes × σ
  | [] => ([], s)
  | chunks :: rest =>
    let served := c.serve s [] chunks
    let (written, s) := c.serveAll served.service rest
    (served.written :: written, s)

end Connector

end SensorLink
