import Conduit.Pipeline.Stage

/-!
The registry of custom stages: factories under names, open until it is sealed.
-/

namespace Conduit

/-- Makes a custom stage from the value of a token. -/
abbrev Factory := String → Provider

structure Registry where
  /-- In the order of their names, each once. -/
  factories : List (String × Factory)
  isSealed : Bool

namespace Registry

def empty : Registry := ⟨[], false⟩

instance : Inhabited Registry := ⟨empty⟩

/-- Registers a factory, in place of one of the same name; a sealed registry refuses. -/
def register (r : Registry) (name : String) (factory : Factory) :
    Registry × Except PipelineError Unit :=
  if r.isSealed then (r, .error (.registrySealed name))
  else ({ r with factories := Json.putMember name factory r.factories }, .ok ())

/-- Freezes the registry for good. -/
def freeze (r : Registry) : Registry := { r with isSealed := true }

def create? (r : Registry) (name value : String) : Option Provider :=
  (r.factories.lookup name).map (· value)

def contains (r : Registry) (name : String) : Bool := (r.factories.lookup name).isSome

def names (r : Registry) : List String := r.factories.map (·.1)

def length (r : Registry) : Nat := r.factories.length

end Registry

end Conduit
