import Conduit.Net.SocketAddress
import Conduit.Pipeline.Contract

/-!
Where a server listens and what it allows, and why it may not start.
-/

namespace Conduit

/-- Times are in milliseconds. -/
structure ServerSettings where
  address : String
  requestTimeout : Nat
  shutdownTimeout : Nat
  maxBodySize : Nat
  deriving DecidableEq, Repr, Inhabited

inductive StartFault
  /-- The address is none. -/
  | invalidAddress (address : String)
  /-- The address cannot be listened on. -/
  | unavailable (address reason : String)
  deriving DecidableEq, Repr

namespace StartFault

def message : StartFault → String
  | invalidAddress address => s!"invalid address \x27{address}\x27: invalid socket address syntax"
  | unavailable address reason => s!"failed to bind to {address}: {reason}"

end StartFault

namespace ServerSettings

def standard : ServerSettings := ⟨"0.0.0.0:8080", 30000, 30000, Contract.defaultLimit⟩

/-- The address to listen on. -/
def listenOn (s : ServerSettings) : Except StartFault Net.SocketAddress :=
  match Net.SocketAddress.parse? s.address with
  | some address => .ok address
  | none => .error (.invalidAddress s.address)

end ServerSettings

end Conduit
