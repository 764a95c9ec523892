import Conduit.Pipeline.Registrar

/-!
Serving requests: each goes to the chain of its route, within limits of size and time, and every
response is stamped with the id of its request.
-/

namespace Conduit

structure Server where
  router : Routing.Router Chain
  maxBodySize : Nat

/-- How a request's body arrives. -/
inductive BodyArrival
  | complete (bytes : Bytes)
  /-- Reading fails after these bytes. -/
  | failed (bytes : Bytes) (reason : String)
  /-- After these bytes, it never ends. -/
  | endless (bytes : Bytes)

def BodyArrival.bytes : BodyArrival → Bytes
  | complete bytes => bytes
  | failed bytes _ => bytes
  | endless bytes => bytes

/-- A request as the transport delivers it. -/
structure Inbound where
  method : Method
  uri : Uri
  headers : Headers
  body : BodyArrival

/-- An answered request: the calls of the application's code, the response, and the context of a
session that goes on. -/
structure Served where
  calls : List Call
  response : Response
  session : Option (Chain × Context)

namespace Server

def defaultTimeoutSeconds : Nat := 30

/-- Puts the id of the request on a response, in place of any that is there. -/
def stamp (r : Response) (id : RequestId) : Response :=
  { r with headers := r.headers.insertText Exchange.requestIdHeader id.text }

/-- A stamped response that tells an error under an id. -/
def errorResponse (category : ErrorCategory) (code message : String) (id : RequestId) : Response :=
  stamp (((Envelope.ofParts category code message).withRequestId id).response category.status) id

/-- The answer where no route takes the request: another verb's route, or none at all. -/
def unmatched (s : Server) (fresh : RequestId) (method : Method) (path : String) : Response :=
  match s.router.matchPath path with
  | some (verbs, _) =>
    let allowed := Text.joinWith ", " (verbs.allowed.map Verb.name)
    let r := errorResponse .methodNotAllowed "METHOD_NOT_ALLOWED"
      s!"{method.name} is not allowed on {path}" fresh
    { r with headers := r.headers.insertText "allow" allowed }
  | none => errorResponse .notFound "NOT_FOUND" s!"no route for {path}" fresh

def timedOut (id : RequestId) : Response :=
  errorResponse .timeout "REQUEST_TIMEOUT" "request exceeded its time budget" id

def bodyTooLarge (s : Server) (id : RequestId) : Response :=
  let message := s!"request body exceeds {s.maxBodySize} bytes"
  stamp (((Envelope.ofParts .validation "PAYLOAD_TOO_LARGE" message).withRequestId id).response
    .payloadTooLarge) id

/-- The body of a request within the server's limit, or the response that refuses it. -/
def collect (s : Server) (fresh : RequestId) (body : BodyArrival) : Except Response Bytes :=
  if s.maxBodySize < body.bytes.length then .error (s.bodyTooLarge fresh)
  else match body with
    | .complete bytes => .ok bytes
    | .failed _ reason =>
      .error (errorResponse .validation "BODY_READ_ERROR" s!"failed to read request body: {reason}"
        fresh)
    | .endless _ => .error (timedOut fresh)

/-- Runs a chain on an exchange and stamps what it answers. A chain that never ends is answered for
when the time is up, and an upgrade needs a connection that can be upgraded. -/
def serve (chain : Chain) (now : Int) (upgradable : Bool) (x : Exchange) : Served :=
  let run := chain.run now x
  match run.reply with
  | none => ⟨run.calls, timedOut x.requestId, none⟩
  | some (.response r) => ⟨run.calls, stamp r x.requestId, none⟩
  | some (.upgrade r session) =>
    if upgradable then ⟨run.calls, stamp r x.requestId, some (chain, session)⟩
    else
      ⟨run.calls, errorResponse .internal "UPGRADE_UNAVAILABLE" "connection cannot be upgraded"
        x.requestId, none⟩

/-- Answers a request at a time in seconds. `fresh` is the id of a request that brings none, and of
every answer given before the request is read. -/
def handle (s : Server) (fresh : RequestId) (now : Int) (req : Inbound) : Served :=
  let path := req.uri.path
  match s.router.matchRoute req.method path with
  | none => ⟨[], s.unmatched fresh req.method path, none⟩
  | some (chain, params) =>
    match s.collect fresh req.body with
    | .error r => ⟨[], r, none⟩
    | .ok bytes =>
      let x := Exchange.ofRequest fresh req.method req.uri req.headers bytes
      serve chain now (WebSocket.isUpgradeRequest req.headers) { x with params }

end Server

end Conduit
