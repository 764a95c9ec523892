import Conduit.Inspect.Errors
import Conduit.Inspect.Routing
import Conduit.Pipeline.Registrar

/-!
Specs, stages, contexts and calls as JSON, to be looked at.
-/

namespace Conduit

def Token.toJson (t : Token) : Json := .strings [t.key, t.value]

/-- A spec with what can be asked of it. -/
def Spec.toJson (s : Spec) : Json :=
  .object [
    ("tokens", .arr (s.tokens.map Token.toJson)),
    ("ellipsis", .arr (s.tokens.map fun t => .bool t.isEllipsis)),
    ("display", .str s.text),
    ("len", .nat s.length),
    ("empty", .bool s.isEmpty),
    ("inherits", .bool s.inherits),
    ("round_trips", .bool (parse s.text == s))]

def Decoder.toJson (d : Decoder) : Json :=
  .object [("query", .bool d.query), ("form", .bool d.form), ("json", .bool d.json),
    ("max", .nat d.limit)]

def Encoder.toJson (e : Encoder) : Json :=
  .object [("media", .str e.media.name), ("wrapper", .str e.wrapper.name)]

def Indexer.toJson (i : Indexer) : Json :=
  .object [("req", .ofOption Decoder.toJson i.req), ("rsp", .ofOption Encoder.toJson i.rsp)]

def Request.toJson (r : Request) : Json :=
  .object [("query", r.query.getD .null), ("form", r.form.getD .null), ("json", r.json.getD .null),
    ("params", r.params.toJson)]

def AuthResult.toJson (a : AuthResult) : Json :=
  .object [("scheme", .str a.scheme), ("subject", .ofOption .str a.subject), ("claims", a.claims)]

/-- The code and reason of a close frame. -/
def Json.ofClose (reason : Option (Nat × String)) : Json :=
  .ofOption (fun (code, text) => .arr [.nat code, .str text]) reason

def SocketState.toJson (s : SocketState) : Json :=
  .object [("accepted", .bool s.accepted), ("protocol", .ofOption .str s.protocol),
    ("received", .nat s.received), ("sent", .nat s.sent), ("close", .ofClose s.close),
    ("error", .ofOption .str s.error)]

def View.toJson (v : View) : Json :=
  .object [
    ("has_req_slot", .bool v.hasRequest),
    ("decode_error", .ofOption ExtractionError.toJson v.decodeError),
    ("has_handle_result", .bool v.hasResult),
    ("handle_error", .ofOption ApiError.toJson v.handlerError),
    ("auth", .ofOption AuthResult.toJson v.auth),
    ("indexer", v.indexer.toJson),
    ("response", .ofOption (fun r : Response => .nat r.status.code) v.exchange.response),
    ("same_id", .bool true)]

def RequestSlot.toJson (s : RequestSlot) : Json :=
  .object [("request", .ofOption Request.toJson s.request),
    ("error", .ofOption ExtractionError.toJson s.error)]

def Payload.toJson : Payload → Json
  | .value v => v
  | .unencodable _ => .str "<unserializable>"

def HandlerResult.toJson : HandlerResult → Json
  | .ok payload => .object [("ok", payload.toJson)]
  | .error e => .object [("err", e.toJson)]

def Context.toJson (c : Context) : Json :=
  .object [
    ("req", .ofOption RequestSlot.toJson c.request),
    ("auth", .ofOption AuthResult.toJson c.auth),
    ("handle", .ofOption HandlerResult.toJson c.result),
    ("ws", .ofOption SocketState.toJson c.socket),
    ("response", .ofOption Response.headJson c.exchange.response),
    ("view", c.view.toJson)]

/-- All that a handler is told with a request. -/
def Context.toldTo (c : Context) (r : Request) : Json :=
  .object [
    ("query", r.query.getD .null), ("form", r.form.getD .null), ("json", r.json.getD .null),
    ("params", r.params.toJson), ("auth", .ofOption AuthResult.toJson c.auth),
    ("ws", .ofOption SocketState.toJson c.socket), ("indexer", c.indexer.toJson),
    ("path", .str c.exchange.path)]

def Call.toJson : Call → Json
  | .handler request _ => .object [("handler", request.toJson)]
  | .provider p view =>
    .object [("provider", .str p.name), ("value", .str p.value), ("saw", view.toJson)]

def Stage.kind : Stage → String
  | req _ => "Req"
  | handle => "Handle"
  | rsp _ => "Rsp"
  | wsHandle _ => "WsHandle"
  | auth _ | custom _ => "Dyn"

/-- The subprotocols of a stage that accepts upgrades. -/
def Stage.protocols? : Stage → Option (List String)
  | wsHandle protocols => some protocols
  | _ => none

/-- The outcome of a stage with what the stage is. -/
def Step.toJson (step : Step) (stage : Stage) : Json :=
  let aborted := match step.flow with
    | .abort e => e.toJson
    | _ => .null
  let protocols := stage.protocols?.toList.map fun ps => ("protocols", Json.strings ps)
  .object ([("kind", .str stage.kind), ("name", .str stage.name),
    ("continue", .bool step.flow.goesOn), ("abort", aborted)] ++ protocols)

def Registry.members (r : Registry) : List (String × Json) :=
  [("names", .strings r.names), ("len", .nat r.length), ("empty", .bool (r.length == 0)),
    ("sealed", .bool r.isSealed)]

def RouteInfo.toJson (r : RouteInfo) : Json :=
  .object [("method", .str r.method.name), ("path", .str r.path), ("spec", .str r.spec),
    ("stages", .strings r.stages)]

/-- A chain by its spec and what it goes by. -/
def Chain.members (c : Chain) : List (String × Json) :=
  [("spec", .str c.spec.text), ("stages", .strings c.stageNames), ("indexer", c.indexer.toJson)]

end Conduit
