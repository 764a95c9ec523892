import Conduit.Pipeline.Registry

/-!
The demo's own stage, which notes the path of each request that reaches it.
-/

namespace Conduit.Demo

/-- A stage that audits on a channel. -/
structure Audit where
  channel : String
  deriving DecidableEq, Repr, Inhabited

namespace Audit

def stageName : String := "audit"

/-- The key under which the path is left on the exchange. -/
def pathKey : String := "audit.path"

/-- The value of the stage's token names the channel. -/
def ofValue (value : String) : Audit := ⟨if value = "" then "default" else value⟩

def provider (value : String) : Provider where
  name := stageName
  value := (ofValue value).channel
  act view :=
    { exchange := view.exchange.putState pathKey (.text view.exchange.path)
      auth := view.auth
      flow := .proceed }

/-- Registers the stage under its name. -/
def register (r : Registry) : Registry × Except PipelineError Unit :=
  r.register stageName provider

end Audit

end Conduit.Demo
