import Conduit.Routing.Params
import Conduit.Routing.Pattern
import Conduit.Routing.Verbs

/-!
A tree of patterns, segment by segment. Insertion creates the nodes it lacks on its way down, and
matching tries literals before a parameter before a wildcard.
-/

namespace Conduit.Routing

/-- A position in the tree: the segment that leads to it, what is registered at it, and where it
leads. Literal children are kept in the order of their texts. -/
structure Node (α : Type) where
  text : String
  segment : Segment
  verbs : Option (Verbs α)
  literals : List (Node α)
  param : Option (Node α)
  wildcard : Option (Node α)

namespace Node

variable {α : Type}

/-- A node that leads nowhere. -/
def leaf (text : String) (segment : Segment) : Node α :=
  { text, segment, verbs := none, literals := [], param := none, wildcard := none }

def root : Node α := leaf "" (.literal "")

instance : Inhabited (Node α) := ⟨root⟩

/-- The child of that text among ordered children; the search stops where it would stand. -/
def findIn (text : String) : List (Node α) → Option (Node α)
  | [] => none
  | child :: rest =>
    if child.text = text then some child
    else if text < child.text then none
    else findIn text rest

/-- Puts a child in its place among ordered children, over one of the same text. -/
def putIn (child : Node α) : List (Node α) → List (Node α)
  | [] => [child]
  | c :: rest =>
    if c.text = child.text then child :: rest
    else if child.text < c.text then child :: c :: rest
    else c :: putIn child rest

def literal? (n : Node α) (text : String) : Option (Node α) := findIn text n.literals

/-- The child that a segment of a pattern leads to: there is one for each literal text, one for
parameters and one for wildcards. -/
def child? (n : Node α) (text : String) : Segment → Option (Node α)
  | .literal _ => n.literal? text
  | .param _ => n.param
  | .wildcard _ => n.wildcard

def withChild (n : Node α) (child : Node α) : Segment → Node α
  | .literal _ => { n with literals := putIn child n.literals }
  | .param _ => { n with param := some child }
  | .wildcard _ => { n with wildcard := some child }

/-! ## Insertion -/

/-- Registers verbs here; verbs that are registered already stay. -/
def addVerbs (n : Node α) (verbs : Verbs α) : Node α :=
  match n.verbs with
  | some known => { n with verbs := some (known.merge verbs) }
  | none => { n with verbs := some verbs }

/-- The name of a parameter or wildcard. -/
def segmentName : Segment → String
  | .literal text => text
  | .param name => name
  | .wildcard name => name

/-- Goes down along the parts, creating nodes as needed, and registers the verbs at the end. A
parameter or wildcard that is there under another name stops the way. -/
def put (pattern : String) (verbs : Verbs α) :
    List Part → Node α → Node α × Option PatternError
  | [], n => (n.addVerbs verbs, none)
  | ⟨text, segment⟩ :: rest, n =>
    let child := (n.child? text segment).getD (leaf text segment)
    if child.segment = segment then
      let (child, fault) := put pattern verbs rest child
      (n.withChild child segment, fault)
    else
      (n.withChild child segment,
        some (.conflictingName pattern child.text (segmentName segment)))

/-- Registers verbs under a pattern: the tree afterwards, and what went wrong. -/
def insert (n : Node α) (pattern : String) (verbs : Verbs α) : Node α × Option PatternError :=
  match parsePattern pattern with
  | .error fault => (n, some fault)
  | .ok parts => n.put pattern verbs parts

/-! ## Looking up patterns -/

/-- What is registered at the end of the parts, names of parameters included. -/
def findParts : List Part → Node α → Option (Verbs α)
  | [], n => n.verbs
  | ⟨text, segment⟩ :: rest, n =>
    match n.child? text segment with
    | some child => if child.segment = segment then findParts rest child else none
    | none => none

def findPattern (n : Node α) (pattern : String) : Option (Verbs α) :=
  match parsePattern pattern with
  | .error _ => none
  | .ok parts => n.findParts parts

/-! ## Matching paths

Every way of going on is given what has been captured so far, and hands it back as it was if it
leads to no registration.
-/

/-- Goes on below a child, if it is there. -/
def enter (go : Node α → Params → Option (Verbs α) × Params) (child : Option (Node α))
    (found : Params) : Option (Verbs α) × Params :=
  match child with
  | some child => go child found
  | none => (none, found)

/-- Captures a value and goes on below a parameter child. -/
def enterParam (go : Node α → Params → Option (Verbs α) × Params) (value : String)
    (child : Node α) (found : Params) : Option (Verbs α) × Params :=
  match child.segment with
  | .param name =>
    match go child (found.push name value) with
    | (some verbs, after) => (some verbs, after)
    | (none, after) => (none, after.truncate found.length)
  | _ => (none, found)

/-- Captures all that is left of a path, if a wildcard child holds anything. -/
def enterWildcard (value : String) (child : Node α) (found : Params) :
    Option (Verbs α) × Params :=
  match child.segment, child.verbs with
  | .wildcard name, some verbs => (some verbs, found.push name value)
  | _, _ => (none, found)

/-- The first registration that the segments lead to, with the parameters on the way. -/
def search : List String → Node α → Params → Option (Verbs α) × Params
  | [], n, found => (n.verbs, found)
  | segment :: rest, n, found =>
    match enter (search rest) (n.literal? segment) found with
    | (some verbs, found) => (some verbs, found)
    | (none, found) =>
      match enter (enterParam (search rest) segment) n.param found with
      | (some verbs, found) => (some verbs, found)
      | (none, found) =>
        enter (enterWildcard (Text.joinWith "/" (segment :: rest))) n.wildcard found

def matchPath (n : Node α) (path : String) : Option (Verbs α × List (String × String)) :=
  let (verbs, found) := n.search (Text.pathSegments path) .empty
  verbs.map fun verbs => (verbs, found.pairs)

end Node

end Conduit.Routing
