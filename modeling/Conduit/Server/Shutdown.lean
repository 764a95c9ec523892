/-!
Shutting down: a signal that is given once, and a count of the connections that are being served.
-/

namespace Conduit

/-- Connections hold tokens while they are served. -/
structure Shutdown where
  /-- The tokens held, the newest last. -/
  held : List Nat
  /-- The number of tokens handed out. -/
  issued : Nat
  /-- The count of live connections: one more with each token, one less with each given back. -/
  active : Nat
  triggered : Bool
  deriving DecidableEq, Repr, Inhabited

namespace Shutdown

def initial : Shutdown := ⟨[], 0, 0, false⟩

/-- Hands out a token that no one has held before. -/
def acquire (s : Shutdown) : Shutdown × Nat :=
  ({ s with held := s.held ++ [s.issued], issued := s.issued + 1, active := s.active + 1 },
    s.issued)

/-- Takes back a token that is held. The count never goes below zero. -/
def release (s : Shutdown) (token : Nat) : Shutdown :=
  { s with held := s.held.erase token, active := s.active - 1 }

/-- Gives the signal; a second time changes nothing. -/
def trigger (s : Shutdown) : Shutdown := { s with triggered := true }

/-- Whether no connection is left to wait for. -/
def isIdle (s : Shutdown) : Bool := s.active == 0

end Shutdown

end Conduit
