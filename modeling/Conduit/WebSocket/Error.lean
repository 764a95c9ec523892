/-!
What goes wrong with WebSocket connections: in the handshake, on the wire, and over their limits.
-/

namespace Conduit.WebSocket

/-- Why a request is no upgrade request. -/
inductive HandshakeFault
  | noConnection | noUpgrade | noKey | badVersion
  deriving DecidableEq, Repr, Inhabited

def HandshakeFault.message : HandshakeFault → String
  | noConnection => "missing Connection: Upgrade header"
  | noUpgrade => "missing Upgrade: websocket header"
  | noKey => "missing Sec-WebSocket-Key header"
  | badVersion => "missing or invalid Sec-WebSocket-Version header (must be 13)"

/-- A breach of the framing protocol. -/
inductive ProtocolFault
  | resetWithoutClosing
  | unmaskedFrame
  | reservedBits
  | invalidOpcode (code : Nat)
  | nothingToContinue
  | fragmentsPending (kind : String)
  | fragmentedControl
  | controlTooBig
  | invalidCloseSequence
  | sendAfterClosing
  | receiveAfterClosing
  deriving DecidableEq, Repr, Inhabited

def ProtocolFault.message : ProtocolFault → String
  | resetWithoutClosing => "Connection reset without closing handshake"
  | unmaskedFrame => "Received an unmasked frame from client"
  | reservedBits => "Reserved bits are non-zero"
  | invalidOpcode code => s!"Encountered invalid opcode: {code}"
  | nothingToContinue => "Continue frame but nothing to continue"
  | fragmentsPending kind => s!"While waiting for more fragments received: {kind}"
  | fragmentedControl => "Fragmented control frame"
  | controlTooBig => "Control frame too big (payload must be 125 bytes or less)"
  | invalidCloseSequence => "Invalid close sequence"
  | sendAfterClosing => "Sending after closing is not allowed"
  | receiveAfterClosing => "Remote sent after having closed"

/-- Why reading or writing a connection fails. -/
inductive TransportError
  | connectionClosed
  | alreadyClosed
  | protocol (fault : ProtocolFault)
  | utf8
  | brokenPipe
  | messageTooLong (size limit : Nat)
  deriving DecidableEq, Repr, Inhabited

def TransportError.message : TransportError → String
  | connectionClosed => "Connection closed normally"
  | alreadyClosed => "Trying to work with closed connection"
  | protocol fault => s!"WebSocket protocol error: {fault.message}"
  | utf8 => "UTF-8 encoding error"
  | brokenPipe => "IO error: broken pipe"
  | messageTooLong size limit => s!"Space limit exceeded: Message too long: {size} > {limit}"

end Conduit.WebSocket

namespace Conduit

inductive WebSocketError
  | notUpgrade (reason : String)
  | upgradeFailed (reason : String)
  | sendFailed (reason : String)
  | receiveFailed (reason : String)
  | transport (e : WebSocket.TransportError)
  deriving DecidableEq, Repr, Inhabited

namespace WebSocketError

def message : WebSocketError → String
  | notUpgrade reason => s!"not a WebSocket upgrade request: {reason}"
  | upgradeFailed reason => s!"WebSocket upgrade failed: {reason}"
  | sendFailed reason => s!"failed to send message: {reason}"
  | receiveFailed reason => s!"failed to receive message: {reason}"
  | transport e => s!"tungstenite error: {e.message}"

def isHandshake : WebSocketError → Bool
  | notUpgrade _ => true
  | _ => false

end WebSocketError

end Conduit
