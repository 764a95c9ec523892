/-!
Request methods, and the verbs among them that routes can be registered for.
-/

namespace Conduit

/-- The characters of names in messages: visible ASCII without delimiters. -/
def isTokenChar (c : Char) : Bool :=
  c.isAlphanum || "!#$%&\x27*+-.^_|~\x60".toList.contains c

/-- A request method, by its name; names differ in case. -/
structure Method where
  name : String
  deriving DecidableEq, Repr, Inhabited

/-- A method name is a token and not empty. -/
def Method.parse? (s : String) : Option Method :=
  if s ≠ "" ∧ s.toList.all isTokenChar then some ⟨s⟩ else none

inductive Verb
  | get | post | put | delete | patch | head | options
  deriving DecidableEq, Repr, Inhabited

namespace Verb

/-- Every verb, in the order in which they are listed. -/
def all : List Verb := [get, post, put, delete, patch, head, options]

def name : Verb → String
  | get => "GET"
  | post => "POST"
  | put => "PUT"
  | delete => "DELETE"
  | patch => "PATCH"
  | head => "HEAD"
  | options => "OPTIONS"

def method (v : Verb) : Method := ⟨v.name⟩

end Verb

/-- The verb that a method is, if routes can be registered for it. -/
def Method.verb? (m : Method) : Option Verb :=
  Verb.all.find? (·.name == m.name)

end Conduit
