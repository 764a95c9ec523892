import Conduit.Text

/-!
Pipeline specs: `key=value` tokens separated by `|`, and the inheritance of a base spec through
`...` tokens.
-/

namespace Conduit

/-- One stage of a spec, by name, with its argument. -/
structure Token where
  key : String
  value : String
  deriving DecidableEq, Repr, Inhabited

namespace Token

/-- Splits at the first `=`; blanks around both parts are dropped. -/
def parse (text : String) : Token :=
  match Text.splitFirst '=' text with
  | some (key, value) => ⟨Text.trim key, Text.trim value⟩
  | none => ⟨Text.trim text, ""⟩

/-- The token that stands for stages of the base spec. -/
def isEllipsis (t : Token) : Bool :=
  t.key == "..." && t.value == ""

def text (t : Token) : String :=
  if t.value = "" then t.key else t.key ++ "=" ++ t.value

end Token

/-- A list of stages to wire, in order. -/
structure Spec where
  tokens : List Token
  deriving DecidableEq, Repr, Inhabited

namespace Spec

def empty : Spec := ⟨[]⟩

/-- Blank text is the empty spec; otherwise every piece between bars is a token. -/
def parse (text : String) : Spec :=
  if Text.trim text = "" then empty
  else ⟨(Text.splitAt '|' text).map Token.parse⟩

def isEmpty (s : Spec) : Bool := s.tokens.isEmpty

def length (s : Spec) : Nat := s.tokens.length

/-- Whether the spec asks for stages of a base. -/
def inherits (s : Spec) : Bool := s.tokens.any Token.isEllipsis

def text (s : Spec) : String :=
  Text.joinWith "|" (s.tokens.map Token.text)

/-- The tokens before the first one with this key, and those after it. -/
def cutAt (key : String) : List Token → Option (List Token × List Token)
  | [] => none
  | t :: ts =>
    if t.key = key then some ([], ts)
    else (cutAt key ts).map fun (before, after) => (t :: before, after)

/-- Walks the route's tokens along what is left of the base. A token right after `...` first copies
the base up to its own key, which it replaces; any other token takes the place of one base token. A
final `...` copies what is left. -/
def merge (following : Bool) : List Token → List Token → List Token
  | [], base => if following then base else []
  | t :: route, base =>
    if t.isEllipsis then merge true route base
    else if following then
      match cutAt t.key base with
      | some (before, after) => before ++ t :: merge false route after
      | none => t :: merge false route base
    else t :: merge false route (base.drop 1)

/-- The spec of a route over a base: an empty route takes the base, one without `...` stands
alone, and the rest are merged. -/
def inherit (route base : Spec) : Spec :=
  if route.isEmpty then base
  else if route.inherits then ⟨merge false route.tokens base.tokens⟩
  else route

end Spec

end Conduit
