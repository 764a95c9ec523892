import Conduit.Routing.Tree

/-!
A tree of patterns with a count of its routes.
-/

namespace Conduit

namespace Routing

structure Router (α : Type) where
  root : Node α
  count : Nat

namespace Router

variable {α : Type}

def empty : Router α := ⟨.root, 0⟩

instance : Inhabited (Router α) := ⟨empty⟩

/-- Registers verbs under a pattern: the router afterwards, and what went wrong. -/
def insert (r : Router α) (pattern : String) (verbs : Verbs α) :
    Router α × Option PatternError :=
  match r.root.insert pattern verbs with
  | (root, none) => (⟨root, r.count + verbs.allowed.length⟩, none)
  | (root, some fault) => (⟨root, r.count⟩, some fault)

/-- Whether the method is registered at that pattern, parameter names included. -/
def contains (r : Router α) (method : Method) (pattern : String) : Bool :=
  match r.root.findPattern pattern with
  | some verbs => (verbs.getMethod? method).isSome
  | none => false

/-- Registers one method, which must not be registered at that pattern yet. -/
def route (r : Router α) (method : Method) (pattern : String) (value : α) :
    Router α × Option PatternError :=
  if r.contains method pattern then (r, some (.duplicate method pattern))
  else r.insert pattern (Verbs.empty.setMethod method value)

/-- What the first pattern that matches a path holds, and its parameters. -/
def matchPath (r : Router α) (path : String) : Option (Verbs α × Params) :=
  (r.root.matchPath path).map fun (verbs, found) => (verbs, ⟨found⟩)

/-- The value of a method at the first pattern that matches a path. -/
def matchRoute (r : Router α) (method : Method) (path : String) : Option (α × Params) := do
  let (verbs, params) ← r.matchPath path
  let value ← verbs.getMethod? method
  return (value, params)

def isEmpty (r : Router α) : Bool := r.count == 0

end Router

end Routing

end Conduit
