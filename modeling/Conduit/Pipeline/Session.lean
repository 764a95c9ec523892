import Conduit.Pipeline.Chain
import Conduit.WebSocket.Socket

/-!
The session of an upgraded connection: each data frame is decoded, given to the handler, and
answered with one frame.
-/

namespace Conduit

open WebSocket (Transport Socket Received Incoming)

/-- A session so far: the context, the socket, and the calls of the handler. -/
structure SessionRun (σ : Type) where
  ctx : Context
  socket : Socket σ
  calls : List Call

namespace Session

/-- The bytes of a data frame. -/
def dataBytes : Incoming → Bytes
  | .text s => Utf8.encode s
  | .binary data => data
  | .close _ => []

/-- Decodes a frame by the chain's decoder. A chain without one takes any JSON. -/
def decodeFrame (contract : Contract) (ctx : Context) (frame : Bytes) :
    Except ExtractionError Request :=
  match ctx.indexer.req with
  | some d => d.decodeFrame contract ctx.exchange frame
  | none => do
    let json ← contract.decodeJson frame Contract.defaultLimit .frame
    return { Request.empty ctx.exchange.params with json := some json }

/-- The reply to a frame that does not decode. -/
def errorFrame (e : ExtractionError) : String :=
  (Json.object [("error", .str e.code), ("detail", .str e.message)]).text

/-- What a data frame leads to. -/
inductive Answer
  | reply (text : String)
  /-- The handler's result cannot be encoded. -/
  | broken (e : PipelineError)
  /-- The handler never returns. -/
  | stalled

/-- Decodes a frame and calls the handler with it. -/
def answer (op : Operation) (ctx : Context) (frame : Bytes) : Context × Answer × List Call :=
  match decodeFrame op.contract ctx frame with
  | .error e => (ctx, .reply (errorFrame e), [])
  | .ok request =>
    let call := Call.handler request ctx
    match op.handler ctx request with
    | (ctx, .pending) => (ctx, .stalled, [call])
    | (ctx, .returned result) =>
      let encoder := ctx.indexer.rsp.getD .plainJson
      let ctx := { ctx with result := some result }
      match encoder.encodeFrame result with
      | .ok text => (ctx, .reply text, [call])
      | .error e => (ctx, .broken e, [call])

variable {σ : Type}

def noteError (ctx : Context) (message : String) : Context :=
  ctx.updateSocket fun s => { s with error := some message }

/-- Whether a session has come to its end, or waits for a frame or its handler. -/
inductive Status | done | waiting
  deriving DecidableEq, Repr

/-- The frames of a session in order, up to a close frame, the end, or an error. -/
def frames (op : Operation) (t : Transport σ) (bound : Nat) (ctx : Context) (socket : Socket σ) :
    SessionRun σ × Status :=
  match bound with
  | 0 => (⟨ctx, socket, []⟩, .waiting)
  | bound + 1 =>
    match socket.recv t with
    | (socket, .pending) => (⟨ctx, socket, []⟩, .waiting)
    | (socket, .ended) => (⟨ctx, socket, []⟩, .done)
    | (socket, .failed e) => (⟨noteError ctx e.message, socket, []⟩, .done)
    | (socket, .incoming (.close reason)) =>
      (⟨ctx.updateSocket fun s => { s with close := reason }, socket, []⟩, .done)
    | (socket, .incoming frame) =>
      let ctx := ctx.updateSocket fun s => { s with received := socket.received }
      match answer op ctx (dataBytes frame) with
      | (ctx, .stalled, calls) => (⟨ctx, socket, calls⟩, .waiting)
      | (ctx, .broken e, calls) => (⟨noteError ctx e.message, socket, calls⟩, .done)
      | (ctx, .reply text, calls) =>
        match socket.sendText t text with
        | (socket, some e) => (⟨noteError ctx e.message, socket, calls⟩, .done)
        | (socket, none) =>
          let ctx := ctx.updateSocket fun s => { s with sent := socket.sent }
          let (run, status) := frames op t bound ctx socket
          ({ run with calls := calls ++ run.calls }, status)

/-- Runs a session to its end: its frames, then a close of the socket and a last count. A session
that waits is left as it stands. -/
def run (op : Operation) (t : Transport σ) (ctx : Context) (socket : Socket σ) : SessionRun σ :=
  match frames op t (t.budget socket.stream + 1) ctx socket with
  | (done, .waiting) => done
  | (done, .done) =>
    let (socket, _) := done.socket.close t ""
    { done with
      socket
      ctx := done.ctx.updateSocket fun s =>
        { s with received := socket.received, sent := socket.sent } }

end Session

end Conduit
