import Conduit.Pipeline.Resolver

/-!
Chains: the stages of one route in order, and the driver that runs a request through them.
-/

namespace Conduit

namespace Indexer

/-- Takes note of a stage; the first decoder and the first encoder count. -/
def offer (i : Indexer) : Stage → Indexer
  | .req d => { i with req := i.req.or (some d) }
  | .rsp e => { i with rsp := i.rsp.or (some e) }
  | _ => i

def ofStages (stages : List Stage) : Indexer := stages.foldl offer .empty

end Indexer

structure Chain where
  spec : Spec
  stages : List Stage
  operation : Operation

/-- What a chain hands to the transport: a response, or the response to an upgrade with the
context that the session goes on with. -/
inductive Reply
  | response (r : Response)
  | upgrade (r : Response) (session : Context)

def Reply.status : Reply → Status
  | response r => r.status
  | upgrade r _ => r.status

def Reply.toResponse : Reply → Response
  | response r => r
  | upgrade r _ => r

/-- A run of a chain: the calls of the application's code, and the reply unless the run never
ends. -/
structure ChainRun where
  calls : List Call
  reply : Option Reply

/-- How the stages of a chain end. -/
structure StagesRun where
  ctx : Context
  flow : Flow
  calls : List Call

/-- Runs stages in order up to the first that does not let the request go on. -/
def runStages (op : Operation) (now : Int) : List Stage → Context → StagesRun
  | [], ctx => ⟨ctx, .proceed, []⟩
  | stage :: rest, ctx =>
    let step := stage.run op now ctx
    match step.flow with
    | .proceed =>
      let run := runStages op now rest step.ctx
      { run with calls := step.calls ++ run.calls }
    | flow => ⟨step.ctx, flow, step.calls⟩

namespace Chain

/-- Resolves a spec into the stages of a route. -/
def build (spec : Spec) (op : Operation) (r : Registry) (o : ChainOptions) :
    Except PipelineError Chain :=
  (Resolver.resolve r o spec).map fun stages => ⟨spec, stages, op⟩

def length (c : Chain) : Nat := c.stages.length

def indexer (c : Chain) : Indexer := .ofStages c.stages

def stageNames (c : Chain) : List String := c.stages.map Stage.name

/-- Whether the chain can hand out sessions. -/
def upgrades (c : Chain) : Bool :=
  c.stages.any fun
    | .wsHandle _ => true
    | _ => false

/-- The reply once every stage has run: an accepted upgrade, else the response written, else what
the handler's result says on its own. -/
def finish (c : Chain) (ctx : Context) : Reply :=
  let (written, exchange) := ctx.exchange.takeResponse
  if ctx.socketState.accepted && c.upgrades then
    .upgrade (written.getD (.empty .switchingProtocols)) { ctx with exchange }
  else match written with
    | some r => .response r
    | none =>
      match ctx.result with
      | some (.error e) => .response e.bareResponse
      | _ => .response (.empty .ok)

/-- Runs one request through the chain. -/
def run (c : Chain) (now : Int) (x : Exchange) : ChainRun :=
  let run := runStages c.operation now c.stages (.ofExchange x c.indexer)
  match run.flow with
  | .proceed => ⟨run.calls, some (c.finish run.ctx)⟩
  | .abort e => ⟨run.calls, some (.response (e.response x.requestId))⟩
  | .stall => ⟨run.calls, none⟩

end Chain

end Conduit
