import Conduit.Config.Dotenv
import Conduit.Config.Files
import Conduit.Text.UpperCase

/-!
Loading a configuration in layers: a preset or a document, then variables, then validation.
-/

namespace Conduit

/-- A configuration being loaded, and the lead of the variables that override it. -/
structure Loader where
  config : Config
  lead : Option String
  deriving DecidableEq, Repr, Inhabited

namespace Loader

def initial : Loader := ⟨.standard, none⟩

/-- Starts over from a document, which leaves nothing of what was there. -/
def withDocument (l : Loader) (document : String) : Except ConfigError Loader :=
  (Config.ofToml document).map fun config => { l with config }

/-- Starts over from a file. -/
def withFile (l : Loader) (files : Files) (path : String) : Except ConfigError Loader :=
  match files path with
  | none => .error (.fileNotFound path)
  | some .directory => .error (.unreadable path "Is a directory (os error 21)")
  | some (.content bytes) =>
    match Utf8.decode? bytes with
    | some document => l.withDocument document
    | none => .error (.unreadable path "stream did not contain valid UTF-8")

/-- Starts over from a file if there is one. -/
def withOptionalFile (l : Loader) (files : Files) (path : String) : Except ConfigError Loader :=
  if (files path).isSome then l.withFile files path else .ok l

def dotenvFile : String := ".env"

/-- The variables with those of the file of variables, if there is one. -/
def dotenv (files : Files) (env : Environment) : Except ConfigError Environment :=
  match files dotenvFile with
  | some (.content bytes) =>
    match Dotenv.load env bytes with
    | .ok env => .ok env
    | .error fault => .error (.badDotenv fault.message)
  | _ => .ok env

/-- Lets variables override settings; their lead is in upper case. -/
def withLead (l : Loader) (lead : String) : Loader := { l with lead := some (Text.upperCase lead) }

/-- The configuration with its overrides, if it is valid. -/
def load (l : Loader) (env : Environment) : Except ConfigError Config := do
  let config ← match l.lead with
    | some lead => l.config.override lead env.bindings
    | none => .ok l.config
  config.validate

end Loader

end Conduit
