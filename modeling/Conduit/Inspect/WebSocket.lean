import Conduit.Inspect.Pipeline
import Conduit.WebSocket.Handshake
import Conduit.WebSocket.Socket

/-!
Messages and what a socket receives as JSON, to be looked at.
-/

namespace Conduit.WebSocket

def Message.toJson : Message → Json
  | .text s => .object [("text", .str s)]
  | .binary data => .object [("binary", .str (Hex.encode data))]
  | .ping data => .object [("ping", .str (Hex.encode data))]
  | .pong data => .object [("pong", .str (Hex.encode data))]
  | .close reason => .object [("close", .ofClose reason)]

def Received.toJson : Received → Json
  | .incoming (.text s) => .object [("text", .str s)]
  | .incoming (.binary data) => .object [("binary", .str (Hex.encode data))]
  | .incoming (.close reason) => .object [("close", .ofClose reason)]
  | .failed e => e.toJson
  | .ended => .str "ended"
  | .pending => .str "pending"

/-- A request as an opening handshake, where some subprotocols are allowed. -/
def handshakeJson (h : Headers) (allowed : List String) : Json :=
  let validated := match validateUpgrade h with
    | .ok accept => .object [("accept", .str accept)]
    | .error fault => (WebSocketError.notUpgrade fault.message).toJson
  .object [
    ("is_websocket", .bool (isUpgradeRequest h)), ("validate", validated),
    ("requested", .strings (requestedProtocols h)),
    ("negotiated", .ofOption .str (negotiateProtocol h allowed))]

end Conduit.WebSocket
