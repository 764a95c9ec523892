import Conduit.Text
import Conduit.Http.Method

/-!
Route patterns: literal segments, parameters written `{name}` or `:name`, and a final wildcard
written `*name`.
-/

namespace Conduit.Routing

inductive Segment
  | literal (text : String)
  /-- Takes exactly one segment of a path. -/
  | param (name : String)
  /-- Takes every remaining segment of a path, at least one. -/
  | wildcard (name : String)
  deriving DecidableEq, Repr, Inhabited

/-- The name between braces, if the text has both. -/
def bracedName (cs : List Char) : Option (List Char) :=
  match cs with
  | '\x7b' :: rest => if rest.getLast? = some '\x7d' then some rest.dropLast else none
  | _ => none

def Segment.classify (text : String) : Segment :=
  let cs := text.toList
  match bracedName cs with
  | some name => .param (String.ofList name)
  | none =>
    match cs with
    | ':' :: name => .param (String.ofList name)
    | '*' :: name => .wildcard (String.ofList name)
    | _ => .literal text

inductive PatternError
  | wildcardNotLast (pattern : String)
  | emptyName (pattern : String)
  | conflictingName (pattern existing name : String)
  | duplicate (method : Method) (pattern : String)
  deriving DecidableEq, Repr

def PatternError.message : PatternError → String
  | wildcardNotLast pattern => "wildcard must be the last segment in " ++ Text.quoted pattern
  | emptyName pattern => "parameter without a name in " ++ Text.quoted pattern
  | conflictingName pattern existing name =>
    s!"{Text.quoted pattern} names parameter {Text.quoted name} where "
      ++ s!"{Text.quoted existing} is already registered"
  | duplicate method pattern => s!"{method.name} {pattern} is already registered"

/-- A segment with the text it was written as. -/
structure Part where
  text : String
  segment : Segment
  deriving DecidableEq, Repr

/-- What is wrong with a segment, if anything; `last` says that none follows. -/
def Segment.fault? (pattern : String) (last : Bool) : Segment → Option PatternError
  | literal _ => none
  | param name => if name = "" then some (.emptyName pattern) else none
  | wildcard name =>
    if name = "" then some (.emptyName pattern)
    else if last then none
    else some (.wildcardNotLast pattern)

/-- Classifies segments from left to right, up to the first that is wrong. -/
def classifyAll (pattern : String) : List String → Except PatternError (List Part)
  | [] => .ok []
  | text :: rest =>
    let segment := Segment.classify text
    match segment.fault? pattern rest.isEmpty with
    | some fault => .error fault
    | none => (classifyAll pattern rest).map (⟨text, segment⟩ :: ·)

/-- The parts of a pattern: its non-empty segments, classified. -/
def parsePattern (pattern : String) : Except PatternError (List Part) :=
  classifyAll pattern (Text.pathSegments pattern)

end Conduit.Routing
