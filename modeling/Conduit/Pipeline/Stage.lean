import Conduit.Pipeline.Auth
import Conduit.WebSocket.Handshake

/-!
The stages of a pipeline and what each does to a context. A step also says what to do next and
which of the application's own code it called.
-/

namespace Conduit

/-! ## The application's code -/

/-- How a handler's call ends. -/
inductive Handling
  | returned (result : HandlerResult)
  /-- It never returns. -/
  | pending

/-- A business handler: it may change the context, and returns a result or never returns. -/
abbrev Handler := Context → Request → Context × Handling

/-- A handler that always returns and leaves the context as it is. -/
def Handler.ofResult (f : Context → Request → HandlerResult) : Handler :=
  fun ctx request => (ctx, .returned (f ctx request))

/-- What a route is for: the data it declares and the handler it is given to. -/
structure Operation where
  contract : Contract
  handler : Handler

/-- What a stage says to do next. -/
inductive Flow
  | proceed
  /-- Stop and answer with this error. -/
  | abort (e : PipelineError)
  /-- Nothing: it never ends. -/
  | stall
  deriving DecidableEq, Repr

def Flow.goesOn : Flow → Bool
  | proceed => true
  | _ => false

/-- What a custom stage does: it may replace the exchange and set the caller's identity. -/
structure Intervention where
  exchange : Exchange
  auth : Option AuthResult
  flow : Flow

/-- A custom stage, made from the value of its token. -/
structure Provider where
  name : String
  value : String
  act : View → Intervention

/-! ## Stages -/

inductive Stage
  | req (decoder : Decoder)
  | auth (scheme : AuthScheme)
  | handle
  | rsp (encoder : Encoder)
  | wsHandle (protocols : List String)
  | custom (provider : Provider)

namespace Stage

def name : Stage → String
  | req _ => "req"
  | auth _ => "auth"
  | handle => "handle"
  | rsp _ => "rsp"
  | wsHandle _ => "ws_handle"
  | custom provider => provider.name

end Stage

/-- A call of the application's code, with the context it was given. -/
inductive Call
  | handler (request : Request) (ctx : Context)
  | provider (provider : Provider) (view : View)

/-- The outcome of a stage. -/
structure Step where
  ctx : Context
  flow : Flow
  calls : List Call

namespace Step

def proceed (ctx : Context) : Step := ⟨ctx, .proceed, []⟩

def abort (ctx : Context) (e : PipelineError) : Step := ⟨ctx, .abort e, []⟩

end Step

namespace Stage

/-- Decodes the request into its slot. A failure waits there for a handler to report it. -/
def runReq (c : Contract) (d : Decoder) (ctx : Context) : Step :=
  match d.decode c ctx.exchange with
  | .ok request => .proceed { ctx with request := some ⟨some request, none⟩ }
  | .error e => .proceed { ctx with request := some ⟨none, some e⟩ }

/-- Only an accepted request goes on. -/
def runAuth (now : Int) (scheme : AuthScheme) (ctx : Context) : Step :=
  match scheme.authenticate now ctx.exchange with
  | .ok identity => .proceed { ctx with auth := some identity }
  | .error fault => .abort ctx (.auth fault)

/-- Takes the decoded request, calls the handler with it and keeps the result. -/
def runHandle (handler : Handler) (ctx : Context) : Step :=
  match ctx.request with
  | none => .abort ctx .missingRequest
  | some slot =>
    match slot.error, slot.request with
    | some e, _ => .abort ctx (.decode e)
    | none, none => .abort ctx .missingRequest
    | none, some request =>
      let ctx := { ctx with request := some { slot with request := none } }
      let call := Call.handler request ctx
      match handler ctx request with
      | (ctx, .returned result) => ⟨{ ctx with result := some result }, .proceed, [call]⟩
      | (ctx, .pending) => ⟨ctx, .stall, [call]⟩

/-- Writes the response for the handler's result, unless the route speaks WebSocket. -/
def runRsp (encoder : Encoder) (ctx : Context) : Step :=
  if ctx.socket.isSome then .proceed ctx
  else match ctx.result with
    | none => .abort ctx .missingHandle
    | some result =>
      match encoder.render result with
      | .ok response => .proceed (ctx.setResponse response)
      | .error e => .abort ctx e

/-- Accepts an upgrade request: writes the response and notes the subprotocol. -/
def runWsHandle (protocols : List String) (ctx : Context) : Step :=
  let headers := ctx.exchange.headers
  match WebSocket.validateUpgrade headers with
  | .error fault => .abort ctx (.upgrade (.notUpgrade fault.message))
  | .ok accept =>
    let protocol := WebSocket.negotiateProtocol headers protocols
    let ctx := ctx.setResponse (WebSocket.switchingProtocols accept protocol)
    .proceed (ctx.updateSocket fun s => { s with accepted := true, protocol })

def runCustom (provider : Provider) (ctx : Context) : Step :=
  let view := ctx.view
  let done := provider.act view
  ⟨{ ctx with exchange := done.exchange, auth := done.auth }, done.flow,
    [.provider provider view]⟩

/-- Runs a stage of a route at a time in seconds. -/
def run (op : Operation) (now : Int) : Stage → Context → Step
  | req decoder, ctx => runReq op.contract decoder ctx
  | auth scheme, ctx => runAuth now scheme ctx
  | handle, ctx => runHandle op.handler ctx
  | rsp encoder, ctx => runRsp encoder ctx
  | wsHandle protocols, ctx => runWsHandle protocols ctx
  | custom provider, ctx => runCustom provider ctx

end Stage

end Conduit
