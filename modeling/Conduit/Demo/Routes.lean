import Conduit.Demo.Audit
import Conduit.Demo.Messages
import Conduit.Pipeline.Registrar
import Conduit.Power

/-!
The demo's routes: two groups, a WebSocket route for callers with a key, and one that tells callers
with a token who they are.
-/

namespace Conduit.Demo

/-! ## What routes declare -/

/-- The shape of data without fields. -/
def noArguments : Shape := .record "NoArgs" false []

structure HelloQuery where
  flag : Bool
  ratio : Float
  label : Option String
  kind : MessageKind
  deriving Inhabited

namespace HelloQuery

def shape : Shape :=
  .record "HelloAbc" false [
    ("arg1", some (.bool true), .bool),
    ("arg2", some (.float 6.666), .float),
    ("arg3", some .null, .option .text),
    ("type", some (.str MessageKind.standard.name), MessageKind.shape)]

def ofJson? (j : Json) : Option HelloQuery := do
  let flag ← (← j.get? "arg1").bool?
  let ratio ← (← j.get? "arg2").float?
  let kind ← MessageKind.ofName? (← (← j.get? "type").str?)
  return ⟨flag, ratio, (j.get? "arg3").bind Json.str?, kind⟩

end HelloQuery

/-- Which way to greet. -/
inductive Way
  | asd | qwe
  deriving DecidableEq, Repr, Inhabited

namespace Way

def name : Way → String
  | asd => "ASD"
  | qwe => "QWE"

def ofName? (name : String) : Option Way := [asd, qwe].find? (·.name == name)

def greeting : Way → String
  | asd => "hello the asd way"
  | qwe => "hello the qwe way"

/-- The shape of a query that names a way. -/
def queryShape : Shape :=
  .record "HelloWay" false [("arg1", some (.str asd.name), .choice [asd.name, qwe.name])]

end Way

structure Posted where
  word : String
  number : Int
  deriving DecidableEq, Repr, Inhabited

namespace Posted

def shape : Shape :=
  .record "TestPost" false [
    ("req1", none, .text),
    ("req2", some (.int 2333), .int (.signed 64))]

def ofJson? (j : Json) : Option Posted := do
  return ⟨← (← j.get? "req1").str?, ← (← j.get? "req2").int?⟩

end Posted

/-- The shape of a query that names a record. -/
def idShape (name : String) : Shape := .record name false [("id", none, .int (.unsigned 64))]

/-- The id in a query, if the query was decoded. -/
def idOf (request : Request) : Option Int := request.query.bind fun q => (q.get? "id").bind Json.int?

/-- The shape of a body that names a record anew. -/
def nameShape : Shape := .record "PutBody" false [("name", none, .text)]

/-! ## What routes do -/

abbrev Business := Context → Request → Except ApiError Json

/-- A route without a form, whose handler only computes a result. -/
def operation (query json : Shape) (f : Business) : Operation where
  contract := .ofShapes query .unit json
  handler := .ofResult fun ctx request => (f ctx request).map .value

/-- A route without arguments. -/
def plain (f : Business) : Operation := operation noArguments .unit f

/-- Takes what a request was to be decoded into. -/
def orUnknown {α : Type} : Option α → Except ApiError α
  | some a => .ok a
  | none => .error .unknown

def counter (n : Nat) : Json := .object [("haha", .nat n)]

/-- Counts what the query says; the text is counted in bytes. -/
def hello : Business := fun _ request => do
  let query ← orUnknown (request.query.bind HelloQuery.ofJson?)
  if !query.ratio.isFinite then
    throw (.ofParts "invalid_arg2" 10001 "arg2 must be finite")
  return .object [
    ("arg1", counter query.flag.toNat),
    ("arg3", counter ((query.label.map String.utf8ByteSize).getD 0)),
    (query.kind.name, counter 1)]

def greet : Business := fun _ request =>
  let way := request.query.bind fun q => ((q.get? "arg1").bind Json.str?).bind Way.ofName?
  .ok (.str (way.getD .asd).greeting)

def sample : Json :=
  .object [
    ("a", .int 1),
    ("bc", .str "bc"),
    ("efg", .arr [.int 1, .int 2, .int 3]),
    ("hijk", .object [("h", .str "ijk")]),
    ("lmnop", .bool true)]

/-- Lists what was posted, and the path if it was audited. -/
def post : Business := fun ctx request => do
  let posted ← orUnknown (request.json.bind Posted.ofJson?)
  let path := (ctx.exchange.textState? Audit.pathKey).toList
  return .object [("list", .strings ([posted.word, toString posted.number] ++ path))]

def put : Business := fun _ request => do
  let id ← orUnknown (idOf request)
  let name ← orUnknown (request.json.bind fun body => (body.get? "name").bind Json.str?)
  return .object [("id", .int id), ("name", .str name)]

def delete : Business := fun _ request => do
  let id ← orUnknown (idOf request)
  return .str s!"deleted {id}"

def echo : Business := fun _ request => do
  let message ← orUnknown (request.json.bind Message.ofJson?)
  return message.reply.toJson

/-- Tells callers who they are. -/
def me : Business := fun ctx _ =>
  match ctx.auth with
  | some identity =>
    .ok (.object [("scheme", .str identity.scheme), ("subject", .ofOption .str identity.subject)])
  | none => .error .tokenExpired

/-! ## The routes -/

def helloRoutes : List RoutePlan := [
  ⟨.get, "/abc", operation HelloQuery.shape .unit hello, "req=Q|handle|rsp=json@general"⟩,
  ⟨.get, "/string", plain fun _ _ => .ok (.str "hello daedalus"), "req=Q|handle|rsp=text"⟩,
  ⟨.get, "/uint64", plain fun _ _ => .ok (.nat maxWord), "req=Q|handle|rsp=json"⟩,
  ⟨.get, "/hello-way", operation Way.queryShape .unit greet, "req=Q|handle|rsp=json@general"⟩]

/-- The routes under `/demo`. Posting needs the stage that audits. -/
def demoRoutes : List RoutePlan := [
  ⟨.get, "/abc", plain fun _ _ => .ok sample, "req=Q|handle|rsp=json@general"⟩,
  ⟨.post, "/test_post", operation .unit Posted.shape post, "req=J|audit|handle|rsp=json@general"⟩,
  ⟨.put, "/1put", operation (idShape "PutQuery") nameShape put, "...|rsp=json@general"⟩,
  ⟨.delete, "/delete", operation (idShape "DeleteQuery") .unit delete, "req=Q|handle|rsp=text"⟩,
  ⟨.get, "/ws", operation noArguments Message.shape echo, "req=J|ws_handle|rsp=json"⟩]

def topRoutes : List RoutePlan := [
  ⟨.get, "/ws", operation noArguments Message.shape echo,
    "req=QJ|auth=api_key|ws_handle|rsp=json@general"⟩,
  ⟨.get, "/me", plain me, "req=Q|auth=jwt|handle|rsp=json@general"⟩]

/-- Registers every route, up to the first that fails. -/
def registerRoutes (r : Registrar) : Registrar × Except PipelineError Unit :=
  match r.group "/hello" (·.registerAll helloRoutes) with
  | (r, .error e) => (r, .error e)
  | (r, .ok ()) =>
    match r.group "/demo" (·.registerAll demoRoutes) with
    | (r, .error e) => (r, .error e)
    | (r, .ok ()) => r.registerAll topRoutes

/-- The stages that routes of the demo can use, with the one that audits or without it. -/
def stages (audited : Bool) : Registry := if audited then (Audit.register .empty).1 else .empty

/-- A registrar over these stages, before the demo's routes are registered. -/
def registrar (audited : Bool) (options : ChainOptions) (defaultSpec : String) : Registrar :=
  { Registrar.ofRegistry (stages audited) with
    options
    defaultSpec := .parse defaultSpec }

end Conduit.Demo
