import Conduit.Inspect.Http
import Conduit.Routing.Router

/-!
Routes as JSON, to be looked at.
-/

namespace Conduit

def Params.toJson (p : Params) : Json := .textPairs p.pairs

namespace Routing

def Verbs.toJson (t : Verbs Json) : Json :=
  .arr (t.toList.map fun (verb, value) => .arr [.str verb.name, value])

def Segment.toJson : Segment → Json
  | .literal _ => .str "static"
  | .param name => .object [("param", .str name)]
  | .wildcard name => .object [("wildcard", .str name)]

namespace Node

/-- A node by what it holds itself and what its children are. -/
def shown (n : Node Json) (literals : List Json) (param wildcard : Json) : Json :=
  .object [("segment", .str n.text), ("kind", n.segment.toJson),
    ("methods", .ofOption Verbs.toJson n.verbs), ("static", .arr literals), ("param", param),
    ("wildcard", wildcard)]

mutual

def toJson : Node Json → Json
  | ⟨text, segment, verbs, literals, param, wildcard⟩ =>
    shown ⟨text, segment, verbs, [], none, none⟩ (listToJson literals) (optionToJson param)
      (optionToJson wildcard)

def listToJson : List (Node Json) → List Json
  | [] => []
  | n :: rest => toJson n :: listToJson rest

def optionToJson : Option (Node Json) → Json
  | none => .null
  | some n => toJson n

end

end Node

end Routing

end Conduit
