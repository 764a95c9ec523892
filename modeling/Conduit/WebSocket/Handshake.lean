import Conduit.Base64
import Conduit.Sha1
import Conduit.Http.Response
import Conduit.WebSocket.Error

/-!
The opening handshake: recognising upgrade requests, choosing a subprotocol, and the response that
switches protocols.
-/

namespace Conduit.WebSocket

def keyHeader : String := "sec-websocket-key"
def versionHeader : String := "sec-websocket-version"
def protocolHeader : String := "sec-websocket-protocol"
def acceptHeader : String := "sec-websocket-accept"

/-- What a client's key is joined with before it is digested. -/
def keySuffix : String := "258EAFA5-E914-47DA-95CA-C5AB0DC85B11"

/-- The answer to a client's key. -/
def acceptKey (key : String) : String :=
  Base64.encode (Sha1.digest (Utf8.encode (key ++ keySuffix)))

/-- The first `Connection` line names `upgrade` among its items. -/
def hasConnectionUpgrade (h : Headers) : Bool :=
  match h.text? "connection" with
  | some value => (Text.splitAt ',' value).any fun item => Text.eqIgnoringCase (Text.trim item) "upgrade"
  | none => false

def hasUpgradeWebSocket (h : Headers) : Bool :=
  match h.text? "upgrade" with
  | some value => Text.eqIgnoringCase value "websocket"
  | none => false

def key? (h : Headers) : Option String := (h.text? keyHeader).filter (· ≠ "")

def hasVersion13 (h : Headers) : Bool :=
  match h.text? versionHeader with
  | some value => Text.trim value == "13"
  | none => false

def isUpgradeRequest (h : Headers) : Bool :=
  hasConnectionUpgrade h && hasUpgradeWebSocket h && (key? h).isSome && hasVersion13 h

/-- The answer to an upgrade request's key, or the first reason why it is none. -/
def validateUpgrade (h : Headers) : Except HandshakeFault String :=
  if !hasConnectionUpgrade h then .error .noConnection
  else if !hasUpgradeWebSocket h then .error .noUpgrade
  else match key? h with
    | none => .error .noKey
    | some key => if hasVersion13 h then .ok (acceptKey key) else .error .badVersion

/-- The subprotocols that a client offers, over all lines, in order. -/
def requestedProtocols (h : Headers) : List String :=
  (h.getAll protocolHeader).filterMap Header.text? |>.flatMap Text.commaItems

/-- The first offered subprotocol that is allowed, in the client's spelling. -/
def negotiateProtocol (h : Headers) (allowed : List String) : Option String :=
  (requestedProtocols h).find? fun offered => allowed.any (Text.eqIgnoringCase · offered)

/-- The response that accepts an upgrade; values that no header can carry are left out. -/
def switchingProtocols (accept : String) (protocol : Option String) : Response :=
  let headers := ((Headers.empty.insertText "connection" "Upgrade").insertText "upgrade"
    "websocket").insertText acceptHeader accept
  let headers := match protocol with
    | some p => headers.insertText protocolHeader p
    | none => headers
  { Response.empty .switchingProtocols with headers }

end Conduit.WebSocket
