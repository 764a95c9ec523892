import Conduit.Config.Basic
import Conduit.Inspect.Errors

/-!
Settings, and what is wrong with them, as JSON, to be looked at.
-/

namespace Conduit

def ConfigError.kind : ConfigError → String
  | .fileNotFound _ => "FileNotFound"
  | .unreadable .. => "ReadError"
  | .malformed | .mismatch _ => "TomlError"
  | .invalid .. => "InvalidValue"
  | .badVariable .. => "EnvParseError"
  | .badDotenv _ => "Dotenv"

/-- The faults of documents that are told in words of our own. -/
def ConfigError.toldFaults : List String :=
  ["unknown field", "invalid type", "invalid value", "unknown variant", "missing field"]

/-- Of a document, only what is wrong with its fields is told. -/
def ConfigError.toJson (e : ConfigError) : Json :=
  match e.documentFault? with
  | none => .failure e.kind e.message
  | some fault =>
    if toldFaults.any (Text.startsWith · fault) then .failure e.kind fault
    else .object [("error", .str e.kind)]

def LoggingFault.kind : LoggingFault → String
  | .unknownFormat _ => "InvalidConfig"
  | .badDirective .. => "LoggingInit"

def LoggingFault.toJson (e : LoggingFault) : Json := .failure e.kind e.message

def StartFault.kind : StartFault → String
  | .invalidAddress _ => "InvalidAddress"
  | .unavailable .. => "Bind"

def StartFault.toJson (e : StartFault) : Json := .failure e.kind e.message

def ServerSettings.toJson (s : ServerSettings) : Json :=
  .object [("http_addr", .str s.address), ("request_timeout_ms", .nat s.requestTimeout),
    ("shutdown_timeout_ms", .nat s.shutdownTimeout), ("max_body_size", .nat s.maxBodySize)]

end Conduit
