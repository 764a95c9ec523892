import Conduit.Pipeline.Chain

/-!
Registering routes: each registration resolves a spec into a chain and enters it under a verb and a
path. A failed registration is reported with the registrar as it is afterwards.
-/

namespace Conduit

/-- A registered route. -/
structure RouteInfo where
  method : Method
  path : String
  spec : String
  stages : List String
  deriving DecidableEq, Repr, Inhabited

/-- A route to be registered. -/
structure RoutePlan where
  verb : Verb
  path : String
  operation : Operation
  spec : String

structure Registrar where
  router : Routing.Router Chain
  registry : Registry
  options : ChainOptions
  defaultSpec : Spec
  /-- What stands before the paths of routes. -/
  lead : String
  routes : List RouteInfo

namespace Registrar

/-- A registrar without routes, over a registry of custom stages. -/
def ofRegistry (registry : Registry) : Registrar :=
  ⟨.empty, registry, .standard, .empty, "", []⟩

/-- One path behind another, with one slash between them. -/
def joinPath (lead path : String) : String :=
  let lead := Text.trimEndOf '/' lead
  let path := Text.trimStartOf '/' path
  if lead = "" then "/" ++ path
  else if path = "" then lead
  else lead ++ "/" ++ path

/-- The chain of a route, before it is entered: its verb must be free at its path, and strict
resolution needs at least one stage. -/
def prepare (r : Registrar) (method : Method) (path : String) (op : Operation) (spec : String) :
    Except PipelineError Chain := do
  if r.router.contains method path then throw (.configuration (.alreadyRegistered method path))
  let spec := (Spec.parse spec).inherit r.defaultSpec
  if spec.isEmpty ∧ r.options.strict then throw (.configuration (.emptySpec method path))
  Chain.build spec op r.registry r.options

/-- Registers a route: the registrar afterwards, and the route's chain. -/
def register (r : Registrar) (method : Method) (path : String) (op : Operation) (spec : String) :
    Registrar × Except PipelineError Chain :=
  let path := joinPath r.lead path
  match r.prepare method path op spec with
  | .error e => (r, .error e)
  | .ok chain =>
    match r.router.route method path chain with
    | (router, some fault) => ({ r with router }, .error (.configuration (.pattern fault)))
    | (router, none) =>
      let info : RouteInfo := ⟨method, path, chain.spec.text, chain.stageNames⟩
      ({ r with router, routes := r.routes ++ [info] }, .ok chain)

/-- Registers routes in order, up to the first that fails. -/
def registerAll (r : Registrar) : List RoutePlan → Registrar × Except PipelineError Unit
  | [] => (r, .ok ())
  | plan :: rest =>
    match r.register plan.verb.method plan.path plan.operation plan.spec with
    | (r, .error e) => (r, .error e)
    | (r, .ok _) => registerAll r rest

/-- Registers routes behind a further lead, which is dropped afterwards whatever happened. -/
def group {α : Type} (r : Registrar) (lead : String) (body : Registrar → Registrar × α) :
    Registrar × α :=
  let (after, result) := body { r with lead := joinPath r.lead lead }
  ({ after with lead := r.lead }, result)

end Registrar

end Conduit
