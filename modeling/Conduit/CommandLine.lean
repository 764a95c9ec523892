import Conduit.Config.Loader
import Conduit.Demo.Routes
import Conduit.Logging.Filter

/-!
The command line of the demo server: what its arguments ask for, and how it comes to serve or ends
before that.
-/

namespace Conduit.CommandLine

structure Options where
  /-- The file that the configuration is read from. -/
  config : Option String
  /-- Whether to start from the development preset. -/
  dev : Bool
  deriving DecidableEq, Repr, Inhabited

namespace Options

def standard : Options := ⟨none, false⟩

end Options

inductive Command
  | help
  | version
  | unknown (argument : String)
  | start (options : Options)
  deriving DecidableEq, Repr, Inhabited

/-- Follows the arguments in order, up to the first that decides the matter. -/
def Command.parse (o : Options) : List String → Command
  | [] => .start o
  | argument :: rest =>
    if ["-c", "--config"].contains argument then
      match rest with
      | [] => .start { o with config := none }
      | path :: rest => parse { o with config := some path } rest
    else if ["-d", "--dev"].contains argument then parse { o with dev := true } rest
    else if ["-h", "--help"].contains argument then .help
    else if ["-v", "--version"].contains argument then .version
    else .unknown argument

/-- How a run ends: its exit code and what it prints. -/
structure Exit where
  code : Nat
  stdout : String
  stderr : String
  deriving DecidableEq, Repr, Inhabited

/-- How far a run comes. -/
inductive Launch
  | exit (e : Exit)
  /-- It serves these routes. -/
  | serve (settings : ServerSettings) (router : Routing.Router Chain)

namespace Launch

def printed (text : String) : Launch := .exit ⟨0, text, ""⟩

def failed (text : String) : Launch := .exit ⟨1, "", text⟩

end Launch

def version : String := "0.1.0"

def versionText : String := s!"daedalus-demo {version}\n"

def helpText : String :=
"Daedalus demo - Declarative pipeline server

USAGE:
    daedalus-demo [OPTIONS]

OPTIONS:
    -c, --config <PATH>    Path to a TOML configuration file (default: ./daedalus.toml if present)
    -d, --dev              Start from the development preset (pretty logs, lenient resolution)
    -h, --help             Print help information
    -v, --version          Print version information

ENVIRONMENT VARIABLES:
    DAEDALUS_SERVER_HTTP_ADDR             Listen address (default: 0.0.0.0:8080)
    DAEDALUS_SERVER_REQUEST_TIMEOUT_SECS  Request timeout in seconds (default: 30)
    DAEDALUS_LOG_LEVEL                    Log filter (default: info)
    DAEDALUS_LOG_FORMAT                   json, pretty or compact (default: json)
    DAEDALUS_PIPELINE_STRICT              Fail on unknown spec tokens (default: true)
    DAEDALUS_PIPELINE_DEFAULT_SPEC        Spec for routes registered with an empty spec

EXAMPLES:
    # Run with a configuration file
    daedalus-demo --config /etc/daedalus/demo.toml

    # Run on another port with readable logs
    DAEDALUS_SERVER_HTTP_ADDR=127.0.0.1:3000 daedalus-demo --dev

"

/-- The file that is read if no other is named and it is there. -/
def standardFile : String := "daedalus.toml"

/-- The lead of the variables that override settings. -/
def lead : String := "DAEDALUS"

/-- Loads the configuration, or says why there is none. -/
def loadConfig (o : Options) (files : Files) (env : Environment) : Except String Config := do
  let start : Loader := if o.dev then { Loader.initial with config := .development } else .initial
  let loader ← match o.config with
    | some path =>
      (start.withFile files path).mapError fun e => s!"loading {path}: {e.fullMessage}"
    | none => (start.withOptionalFile files standardFile).mapError ConfigError.fullMessage
  let env ← (Loader.dotenv files env).mapError ConfigError.fullMessage
  ((loader.withLead lead).load env).mapError ConfigError.fullMessage

/-- Starts the server. What goes wrong once logging has started is only logged. -/
def start (o : Options) (files : Files) (env : Environment) : Launch :=
  match loadConfig o files env with
  | .error reason => .failed s!"Invalid configuration: {reason}\n"
  | .ok config =>
    match config.logging.start with
    | .error fault => .failed s!"daedalus-demo: {fault.message}\n"
    | .ok () =>
      let start := Demo.registrar true config.pipeline.options config.pipeline.defaultSpec
      match Demo.registerRoutes start with
      | (_, .error _) => .failed ""
      | (r, .ok ()) => .serve config.serverSettings r.router

/-- Runs the program with its arguments. -/
def run (arguments : List String) (files : Files) (env : Environment) : Launch :=
  match Command.parse .standard arguments with
  | .help => .printed helpText
  | .version => .printed versionText
  | .unknown argument =>
    .failed s!"Unknown argument: {argument}\nUse --help for usage information\n"
  | .start o => start o files env

end Conduit.CommandLine
