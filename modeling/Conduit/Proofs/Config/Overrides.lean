import Mathlib.Data.List.Perm.Basic
import Conduit.Config.Loader
import Conduit.Proofs.Checks
import Conduit.Proofs.Config.BaseSpec
import Conduit.Proofs.Text

/-! # Variables over a configuration

The variables of a process come in no order, and the first that cannot be read ends the loading.
Whether there is a configuration, and which one, depends all the same only on what variables there
are: each setting is what its own variable says, or what it was without one, and no other variable
has a say. -/

namespace Conduit

variable {lead name text : String} {vars rest : List (String × String)} {base base' c c' : Config}

/-! ## Settings as parts of a configuration -/

attribute [ext] ServerSection LogSettings PipelineSection Config

namespace Setting

variable {s t : Setting}

def Value : Setting → Type
  | httpAddr | logLevel | defaultSpec => String
  | requestTimeout | shutdownTimeout | maxBodySize => Nat
  | logFormat => LogFormat
  | strict => Bool

def value (c : Config) : (s : Setting) → s.Value
  | httpAddr => c.server.httpAddr
  | requestTimeout => c.server.requestTimeout
  | shutdownTimeout => c.server.shutdownTimeout
  | logLevel => c.logging.level
  | logFormat => c.logging.format
  | strict => c.pipeline.strict
  | defaultSpec => c.pipeline.defaultSpec
  | maxBodySize => c.pipeline.maxBodySize

def put (c : Config) : (s : Setting) → s.Value → Config
  | httpAddr, v => { c with server := { c.server with httpAddr := v } }
  | requestTimeout, v => { c with server := { c.server with requestTimeout := v } }
  | shutdownTimeout, v => { c with server := { c.server with shutdownTimeout := v } }
  | logLevel, v => { c with logging := { c.logging with level := v } }
  | logFormat, v => { c with logging := { c.logging with format := v } }
  | strict, v => { c with pipeline := { c.pipeline with strict := v } }
  | defaultSpec, v => { c with pipeline := { c.pipeline with defaultSpec := v } }
  | maxBodySize, v => { c with pipeline := { c.pipeline with maxBodySize := v } }

end Setting

namespace Config

/-- What a configuration holds besides the settings. -/
def others (c : Config) : Bool × Bool × Bool × Bool × String :=
  (c.logging.enabled, c.logging.spanEvents, c.logging.fileLineInfo, c.logging.includeTarget,
    c.logging.serviceName)

end Config

/-! ## The variable of a setting -/

namespace Setting

variable {s t : Setting}

end Setting

/-! ## All variables -/

namespace Config

end Config

/-! ## Loading -/

namespace Loader

end Loader

end Conduit
