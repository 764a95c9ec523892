import Conduit.Config.Basic
import Conduit.Decimal.Reader
import Conduit.Power

/-!
Environment variables that override settings, by names of the form `LEAD_SETTING`.
-/

namespace Conduit

/-- Variables by their names; of several with one name the first counts. -/
structure Environment where
  bindings : List (String × String)
  deriving DecidableEq, Repr, Inhabited

namespace Environment

def get? (e : Environment) (name : String) : Option String := e.bindings.lookup name

/-- Gives a variable a value, in place of any it has. -/
def set (e : Environment) (name value : String) : Environment :=
  ⟨(name, value) :: e.bindings.filter (·.1 ≠ name)⟩

/-- Gives a variable a value, unless it has one. -/
def setDefault (e : Environment) (name value : String) : Environment :=
  if (e.get? name).isSome then e else e.set name value

end Environment

/-- The settings that variables override. -/
inductive Setting
  | httpAddr | requestTimeout | shutdownTimeout | logLevel | logFormat | strict | defaultSpec
  | maxBodySize
  deriving DecidableEq, Repr, Inhabited

namespace Setting

def all : List Setting :=
  [httpAddr, requestTimeout, shutdownTimeout, logLevel, logFormat, strict, defaultSpec,
    maxBodySize]

def name : Setting → String
  | httpAddr => "SERVER_HTTP_ADDR"
  | requestTimeout => "SERVER_REQUEST_TIMEOUT_SECS"
  | shutdownTimeout => "SERVER_SHUTDOWN_TIMEOUT_SECS"
  | logLevel => "LOG_LEVEL"
  | logFormat => "LOG_FORMAT"
  | strict => "PIPELINE_STRICT"
  | defaultSpec => "PIPELINE_DEFAULT_SPEC"
  | maxBodySize => "PIPELINE_MAX_BODY_SIZE"

/-- The setting that a variable overrides: its name is the lead, an underscore, and the setting's
name. -/
def ofVariable? (lead var : String) : Option Setting := do
  let rest ← Text.stripLead lead var
  let name ← Text.stripLead "_" rest
  all.find? (·.name == name)

/-- Words for yes and no, in any case. -/
def readBool (s : String) : Option Bool :=
  match Text.lower s with
  | "true" | "1" | "yes" | "on" => some true
  | "false" | "0" | "no" | "off" => some false
  | _ => none

def readWord (s : String) : Option Nat :=
  match Decimal.readInt 0 (Int.ofNat maxWord) s with
  | .ok n => some n.toNat
  | .error _ => none

/-- Puts the value of a variable into a configuration. -/
def apply (s : Setting) (var value : String) (c : Config) : Except ConfigError Config :=
  let integer : Except ConfigError Nat :=
    match readWord value with
    | some n => .ok n
    | none => .error (.badVariable var "expected integer")
  match s with
  | httpAddr => .ok { c with server := { c.server with httpAddr := value } }
  | requestTimeout =>
    integer.map fun n => { c with server := { c.server with requestTimeout := n } }
  | shutdownTimeout =>
    integer.map fun n => { c with server := { c.server with shutdownTimeout := n } }
  | logLevel => .ok { c with logging := { c.logging with level := value } }
  | logFormat =>
    match LogFormat.parse value with
    | .ok format => .ok { c with logging := { c.logging with format } }
    | .error fault => .error (.badVariable var fault.message)
  | strict =>
    match readBool value with
    | some b => .ok { c with pipeline := { c.pipeline with strict := b } }
    | none => .error (.badVariable var "expected boolean")
  | defaultSpec => .ok { c with pipeline := { c.pipeline with defaultSpec := value } }
  | maxBodySize =>
    integer.map fun n => { c with pipeline := { c.pipeline with maxBodySize := n } }

end Setting

namespace Config

/-- Follows one variable; one that overrides nothing changes nothing. -/
def overrideOne (lead : String) (c : Config) (var : String × String) :
    Except ConfigError Config :=
  match Setting.ofVariable? lead var.1 with
  | some setting => setting.apply var.1 var.2 c
  | none => .ok c

/-- Follows every variable, in the order in which they are visited. -/
def override (lead : String) (bindings : List (String × String)) (c : Config) :
    Except ConfigError Config :=
  bindings.foldlM (overrideOne lead) c

end Config

end Conduit
