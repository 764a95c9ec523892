import Conduit.Pipeline.Decoder
import Conduit.Pipeline.Encoder

/-!
What the stages of one run share: the exchange, and a slot for what each kind of stage leaves.
-/

namespace Conduit

/-- The decoder and the encoder that a chain goes by: the first of each. -/
structure Indexer where
  req : Option Decoder
  rsp : Option Encoder
  deriving DecidableEq, Repr, Inhabited

def Indexer.empty : Indexer := ⟨none, none⟩

/-- What a decoder left: the request until a handler takes it, or why there is none. -/
structure RequestSlot where
  request : Option Request
  error : Option ExtractionError
  deriving Inhabited

/-- What an authenticator established about the caller. -/
structure AuthResult where
  scheme : String
  subject : Option String
  claims : Json
  deriving Inhabited

/-- The state of a WebSocket route. -/
structure SocketState where
  /-- The upgrade response was written. -/
  accepted : Bool
  protocol : Option String
  received : Nat
  sent : Nat
  /-- The code and reason of the peer's close frame. -/
  close : Option (Nat × String)
  /-- The error that ended the session. -/
  error : Option String
  deriving DecidableEq, Repr, Inhabited

def SocketState.initial : SocketState := ⟨false, none, 0, 0, none, none⟩

structure Context where
  exchange : Exchange
  indexer : Indexer
  request : Option RequestSlot
  auth : Option AuthResult
  result : Option HandlerResult
  socket : Option SocketState

/-- What custom stages see of a context. -/
structure View where
  exchange : Exchange
  indexer : Indexer
  auth : Option AuthResult
  hasRequest : Bool
  decodeError : Option ExtractionError
  hasResult : Bool
  handlerError : Option ApiError

namespace Context

def ofExchange (x : Exchange) (indexer : Indexer) : Context :=
  ⟨x, indexer, none, none, none, none⟩

def handlerError? (c : Context) : Option ApiError :=
  match c.result with
  | some (.error e) => some e
  | _ => none

def view (c : Context) : View where
  exchange := c.exchange
  indexer := c.indexer
  auth := c.auth
  hasRequest := c.request.isSome
  decodeError := c.request.bind (·.error)
  hasResult := c.result.isSome
  handlerError := c.handlerError?

def setResponse (c : Context) (r : Response) : Context :=
  { c with exchange := c.exchange.setResponse r }

/-- The state of the socket, made on first use. -/
def socketState (c : Context) : SocketState := c.socket.getD .initial

def updateSocket (c : Context) (f : SocketState → SocketState) : Context :=
  { c with socket := some (f c.socketState) }

end Context

end Conduit
