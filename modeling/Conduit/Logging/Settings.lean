import Conduit.Shape.Basic

/-!
What is logged and how.
-/

namespace Conduit

inductive LogFormat
  | json | pretty | compact
  deriving DecidableEq, Repr, Inhabited

inductive LoggingFault
  /-- A setting is refused. -/
  | unknownFormat (name : String)
  /-- A filter directive is refused. -/
  | badDirective (directive reason : String)
  deriving DecidableEq, Repr

namespace LoggingFault

/-- What is refused, without the reason. -/
def shortMessage : LoggingFault → String
  | unknownFormat name => s!"invalid logging setting: unknown log format \x27{name}\x27"
  | badDirective directive _ => s!"logging setup failed: bad filter directive {Text.quoted directive}"

def message : LoggingFault → String
  | unknownFormat name => (unknownFormat name).shortMessage ++ ", expected json, pretty or compact"
  | badDirective directive reason => (badDirective directive reason).shortMessage ++ ": " ++ reason

end LoggingFault

namespace LogFormat

def all : List LogFormat := [json, pretty, compact]

def name : LogFormat → String
  | json => "json"
  | pretty => "pretty"
  | compact => "compact"

def ofName? (name : String) : Option LogFormat := all.find? (·.name == name)

/-- Reads a format's name in any case. -/
def parse (s : String) : Except LoggingFault LogFormat :=
  match ofName? (Text.lower s) with
  | some format => .ok format
  | none => .error (.unknownFormat (Text.lower s))

end LogFormat

structure LogSettings where
  enabled : Bool
  /-- A list of filter directives. -/
  level : String
  format : LogFormat
  spanEvents : Bool
  fileLineInfo : Bool
  includeTarget : Bool
  serviceName : String
  deriving DecidableEq, Repr, Inhabited

namespace LogSettings

def standard : LogSettings :=
  { enabled := true, level := "info", format := .json, spanEvents := false, fileLineInfo := false,
    includeTarget := true, serviceName := "daedalus" }

/-- For development: everything from the debug level on, easy to read. -/
def development : LogSettings :=
  { standard with level := "debug", format := .pretty, spanEvents := true, fileLineInfo := true }

def toJson (s : LogSettings) : Json :=
  .object [("enabled", .bool s.enabled), ("level", .str s.level), ("format", .str s.format.name),
    ("span_events", .bool s.spanEvents), ("file_line_info", .bool s.fileLineInfo),
    ("include_target", .bool s.includeTarget), ("service_name", .str s.serviceName)]

/-- The shape of the settings, each with its standard value. -/
def shape : Shape :=
  .record "LogConfig" true [
    ("enabled", some (.bool standard.enabled), .bool),
    ("level", some (.str standard.level), .text),
    ("format", some (.str standard.format.name), .choice (LogFormat.all.map LogFormat.name)),
    ("span_events", some (.bool standard.spanEvents), .bool),
    ("file_line_info", some (.bool standard.fileLineInfo), .bool),
    ("include_target", some (.bool standard.includeTarget), .bool),
    ("service_name", some (.str standard.serviceName), .text)]

/-- The settings that JSON of their shape stands for. -/
def ofJson? (j : Json) : Option LogSettings := do
  return {
    enabled := ← (← j.get? "enabled").bool?
    level := ← (← j.get? "level").str?
    format := ← LogFormat.ofName? (← (← j.get? "format").str?)
    spanEvents := ← (← j.get? "span_events").bool?
    fileLineInfo := ← (← j.get? "file_line_info").bool?
    includeTarget := ← (← j.get? "include_target").bool?
    serviceName := ← (← j.get? "service_name").str? }

end LogSettings

end Conduit
