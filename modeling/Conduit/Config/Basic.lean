import Conduit.Logging.Settings
import Conduit.Pipeline.Resolver
import Conduit.Server.Settings
import Conduit.Shape.FromToml
import Conduit.Toml.Reader

/-!
The configuration of a server: what it listens on, what it logs, and how its pipelines are wired.
-/

namespace Conduit

/-- Times are in seconds. -/
structure ServerSection where
  httpAddr : String
  requestTimeout : Nat
  shutdownTimeout : Nat
  deriving DecidableEq, Repr, Inhabited

structure PipelineSection where
  /-- The spec of routes that have none, and the base of those that inherit. -/
  defaultSpec : String
  strict : Bool
  maxBodySize : Nat
  deriving DecidableEq, Repr, Inhabited

structure Config where
  server : ServerSection
  logging : LogSettings
  pipeline : PipelineSection
  deriving DecidableEq, Repr, Inhabited

namespace ServerSection

def standard : ServerSection := ⟨"0.0.0.0:8080", 30, 30⟩

def toJson (s : ServerSection) : Json :=
  .object [("http_addr", .str s.httpAddr), ("request_timeout_secs", .nat s.requestTimeout),
    ("shutdown_timeout_secs", .nat s.shutdownTimeout)]

def shape : Shape :=
  .record "ServerConfig" true [
    ("http_addr", some (.str standard.httpAddr), .text),
    ("request_timeout_secs", some (.nat standard.requestTimeout), .int (.unsigned 64)),
    ("shutdown_timeout_secs", some (.nat standard.shutdownTimeout), .int (.unsigned 64))]

def ofJson? (j : Json) : Option ServerSection := do
  let httpAddr ← (← j.get? "http_addr").str?
  let request ← (← j.get? "request_timeout_secs").int?
  let shutdown ← (← j.get? "shutdown_timeout_secs").int?
  return ⟨httpAddr, request.toNat, shutdown.toNat⟩

/-- Puts the section into the settings of a server. -/
def configure (s : ServerSection) (settings : ServerSettings) : ServerSettings :=
  { settings with
    address := s.httpAddr
    requestTimeout := s.requestTimeout * 1000
    shutdownTimeout := s.shutdownTimeout * 1000 }

end ServerSection

namespace PipelineSection

def standard : PipelineSection := ⟨"req=QJ|handle|rsp=json", true, Contract.defaultLimit⟩

/-- The width of sizes in memory. -/
def sizeWidth : Width := { Width.unsigned 64 with name := "usize" }

def toJson (s : PipelineSection) : Json :=
  .object [("default_spec", .str s.defaultSpec), ("strict_resolution", .bool s.strict),
    ("max_body_size", .nat s.maxBodySize)]

def shape : Shape :=
  .record "PipelineConfig" true [
    ("default_spec", some (.str standard.defaultSpec), .text),
    ("strict_resolution", some (.bool standard.strict), .bool),
    ("max_body_size", some (.nat standard.maxBodySize), .int sizeWidth)]

def ofJson? (j : Json) : Option PipelineSection := do
  let defaultSpec ← (← j.get? "default_spec").str?
  let strict ← (← j.get? "strict_resolution").bool?
  let size ← (← j.get? "max_body_size").int?
  return ⟨defaultSpec, strict, size.toNat⟩

def options (s : PipelineSection) : ChainOptions := ⟨s.strict, s.maxBodySize⟩

/-- Puts the limit of the section into the settings of a server. -/
def configure (s : PipelineSection) (settings : ServerSettings) : ServerSettings :=
  { settings with maxBodySize := s.maxBodySize }

end PipelineSection

/-- Why there is no valid configuration. -/
inductive ConfigError
  | fileNotFound (path : String)
  | unreadable (path reason : String)
  /-- The document is malformed. -/
  | malformed
  /-- The document says what no configuration says. -/
  | mismatch (m : Mismatch)
  | invalid (field reason : String)
  | badVariable (name reason : String)
  | badDotenv (reason : String)

namespace ConfigError

/-- What is wrong with a document. -/
def documentFault? : ConfigError → Option String
  | malformed => some "malformed document"
  | mismatch m => some (m.message Shape.tomlStyle)
  | _ => none

def message : ConfigError → String
  | fileNotFound path => s!"configuration file not found: {path}"
  | unreadable path _ => s!"failed to read configuration file: {path}"
  | malformed => "failed to parse TOML configuration: malformed document"
  | mismatch m => s!"failed to parse TOML configuration: {m.message Shape.tomlStyle}"
  | invalid field reason => s!"invalid configuration value for {field}: {reason}"
  | badVariable name reason => s!"failed to parse environment variable {name}: {reason}"
  | badDotenv reason => s!"failed to load .env file: {reason}"

/-- The message with the cause behind it. -/
def fullMessage (e : ConfigError) : String :=
  match e with
  | unreadable _ reason => s!"{e.message}: {reason}"
  | e => e.message

end ConfigError

namespace Config

def standard : Config := ⟨.standard, .standard, .standard⟩

def development : Config :=
  { standard with
    logging := .development
    pipeline := { PipelineSection.standard with strict := false } }

def production : Config := standard

def toJson (c : Config) : Json :=
  .object [("server", c.server.toJson), ("logging", c.logging.toJson),
    ("pipeline", c.pipeline.toJson)]

/-- The shape of a configuration; sections that are absent take their standard values. -/
def shape : Shape :=
  .record "DaedalusConfig" true [
    ("server", some ServerSection.standard.toJson, ServerSection.shape),
    ("logging", some LogSettings.standard.toJson, LogSettings.shape),
    ("pipeline", some PipelineSection.standard.toJson, PipelineSection.shape)]

def ofJson? (j : Json) : Option Config := do
  let server ← ServerSection.ofJson? (← j.get? "server")
  let logging ← LogSettings.ofJson? (← j.get? "logging")
  let pipeline ← PipelineSection.ofJson? (← j.get? "pipeline")
  return ⟨server, logging, pipeline⟩

/-- Reads a configuration from a document. -/
def ofToml (document : String) : Except ConfigError Config :=
  match Toml.parse? document with
  | none => .error .malformed
  | some t =>
    match shape.ofToml t with
    | .error m => .error (.mismatch m)
    | .ok j =>
      match ofJson? j with
      | some c => .ok c
      | none => .error .malformed

/-! ## Validation -/

/-- The tokens of a spec as configurations judge them: trimmed, and not empty. -/
def specTokens (spec : String) : List String :=
  ((Text.splitAt '|' spec).map Text.trim).filter (· ≠ "")

/-- The first thing wrong with a configuration, if anything is. -/
def fault? (c : Config) : Option ConfigError :=
  let tokens := specTokens c.pipeline.defaultSpec
  if (Net.SocketAddress.parse? c.server.httpAddr).isNone then
    some (.invalid "server.http_addr" s!"invalid socket address: {c.server.httpAddr}")
  else if c.server.requestTimeout = 0 then
    some (.invalid "server.request_timeout_secs" "must be greater than zero")
  else if c.pipeline.maxBodySize = 0 then
    some (.invalid "pipeline.max_body_size" "must be greater than zero")
  else if tokens.isEmpty then
    some (.invalid "pipeline.default_spec" "must name at least one stage")
  else if tokens.contains "..." then
    some (.invalid "pipeline.default_spec" "the base spec cannot inherit with \x27...\x27")
  else none

/-- The settings of the server that is configured. -/
def serverSettings (c : Config) : ServerSettings :=
  c.pipeline.configure (c.server.configure .standard)

def validate (c : Config) : Except ConfigError Config :=
  match c.fault? with
  | some e => .error e
  | none => .ok c

end Config

end Conduit
