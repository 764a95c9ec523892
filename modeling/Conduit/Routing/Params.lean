/-!
Parameters taken from paths. Matching appends what it captures and cuts it off again when a way
leads nowhere.
-/

namespace Conduit

/-- Named values in order; a name may occur more than once. -/
structure Params where
  pairs : List (String × String)
  deriving DecidableEq, Repr, Inhabited

namespace Params

def empty : Params := ⟨[]⟩

def push (p : Params) (name value : String) : Params := ⟨p.pairs ++ [(name, value)]⟩

/-- The first value of that name. -/
def get? (p : Params) (name : String) : Option String := p.pairs.lookup name

def length (p : Params) : Nat := p.pairs.length

/-- Drops all but the first values. -/
def truncate (p : Params) (length : Nat) : Params := ⟨p.pairs.take length⟩

end Params

end Conduit
