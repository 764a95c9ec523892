import Conduit.Pipeline.Registry

/-!
Resolving the tokens of a spec to stages. Each token is offered to the tiers in order; the first
that claims it decides.
-/

namespace Conduit

structure ChainOptions where
  /-- Tokens that no tier claims are an error. -/
  strict : Bool
  maxBodySize : Nat
  deriving DecidableEq, Repr

def ChainOptions.standard : ChainOptions := ⟨true, Contract.defaultLimit⟩

instance : Inhabited ChainOptions := ⟨.standard⟩

namespace Resolver

/-- A tier refuses a token whose value it cannot use, and passes one that is not its own. -/
abbrev Tier := Token → Except PipelineError (Option Stage)

def handlerTier : Tier := fun t =>
  match t.key with
  | "handle" => .ok (some .handle)
  | "ws_handle" => .ok (some (.wsHandle (Text.commaItems t.value)))
  | _ => .ok none

def builtinTier (o : ChainOptions) : Tier := fun t =>
  match t.key with
  | "req" => (Decoder.parse t.value o.maxBodySize).map (some ∘ .req)
  | "rsp" => (Encoder.parse t.value).map (some ∘ .rsp)
  | "auth" => .ok ((AuthScheme.parse? t.value).map .auth)
  | _ => .ok none

/-- Authenticators are registered under `auth.` and their scheme, all others under their key. -/
def registryTier (r : Registry) : Tier := fun t =>
  if t.key = "" then .ok none
  else if t.key = "auth" then
    let scheme := Text.trim t.value
    if scheme = "" then .ok none
    else .ok ((r.create? ("auth." ++ scheme) "").map .custom)
  else .ok ((r.create? t.key t.value).map .custom)

def tiers (r : Registry) (o : ChainOptions) : List (String × Tier) :=
  [("handler", handlerTier), ("builtin", builtinTier o), ("registry", registryTier r)]

/-- The stage from the first tier that claims the token. -/
def firstClaim (t : Token) : List Tier → Except PipelineError (Option Stage)
  | [] => .ok none
  | tier :: rest => do
    match ← tier t with
    | some stage => return some stage
    | none => firstClaim t rest

def resolveToken (r : Registry) (o : ChainOptions) (t : Token) :
    Except PipelineError (Option Stage) :=
  firstClaim t ((tiers r o).map (·.2))

/-- The stages of the tokens that resolve, and the tokens that do not. -/
def resolveAll (r : Registry) (o : ChainOptions) :
    List Token → Except PipelineError (List Stage × List Token)
  | [] => .ok ([], [])
  | t :: rest => do
    let claimed ← resolveToken r o t
    let (stages, unresolved) ← resolveAll r o rest
    match claimed with
    | some stage => return (stage :: stages, unresolved)
    | none => return (stages, t :: unresolved)

/-- The stages of a spec. Unresolved tokens are dropped, unless resolution is strict. -/
def resolve (r : Registry) (o : ChainOptions) (spec : Spec) : Except PipelineError (List Stage) := do
  let (stages, unresolved) ← resolveAll r o spec.tokens
  if o.strict ∧ unresolved ≠ [] then throw (.configuration (.unresolved spec unresolved))
  return stages

end Resolver

end Conduit
