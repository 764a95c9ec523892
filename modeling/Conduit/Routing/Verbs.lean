import Conduit.Http.Method

/-!
What one pattern holds: at most one value for each verb.
-/

namespace Conduit.Routing

structure Verbs (α : Type) where
  get? : Verb → Option α

namespace Verbs

variable {α : Type}

def empty : Verbs α := ⟨fun _ => none⟩

instance : Inhabited (Verbs α) := ⟨empty⟩

/-- Gives the verb a value in place of any it had. -/
def set (t : Verbs α) (verb : Verb) (value : α) : Verbs α :=
  ⟨fun v => if v = verb then some value else t.get? v⟩

/-- Gives a method a value; a method that is no verb is ignored. -/
def setMethod (t : Verbs α) (method : Method) (value : α) : Verbs α :=
  match method.verb? with
  | some verb => t.set verb value
  | none => t

def getMethod? (t : Verbs α) (method : Method) : Option α :=
  method.verb?.bind t.get?

/-- Adds the values of verbs that have none yet. -/
def merge (t other : Verbs α) : Verbs α :=
  ⟨fun v => (t.get? v).or (other.get? v)⟩

/-- The verbs with a value, in the order of all verbs. -/
def allowed (t : Verbs α) : List Verb :=
  Verb.all.filter fun v => (t.get? v).isSome

/-- Every verb with its value, in order. -/
def toList (t : Verbs α) : List (Verb × α) :=
  Verb.all.filterMap fun v => (t.get? v).map fun a => (v, a)

end Verbs

end Conduit.Routing
