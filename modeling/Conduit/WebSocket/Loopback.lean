import Conduit.WebSocket.Socket

/-!
A server's socket and its client, joined in memory: what one end writes, the other can read.
-/

namespace Conduit.WebSocket

structure Loopback where
  server : Socket Endpoint
  client : Endpoint
  /-- The client is gone. -/
  dropped : Bool

/-- What a client puts on the wire. -/
inductive ClientFrame
  | message (m : Message)
  | raw (bytes : Bytes)
  deriving DecidableEq, Repr, Inhabited

namespace Loopback

def initial : Loopback := ⟨.ofStream (.ofRole .server), .ofRole .client, false⟩

/-- Moves what either end has written to the other. -/
def exchange (l : Loopback) : Loopback :=
  let s := l.server.stream
  let c := l.client
  { l with
    server := { l.server with
      stream := { s with incoming := s.incoming ++ c.outgoing, outgoing := [] } }
    client := { c with incoming := c.incoming ++ s.outgoing, outgoing := [] } }

/-- The client writes a frame; one that it may not send any more is dropped. -/
def clientSend (l : Loopback) (f : ClientFrame) : Loopback :=
  let client := match f with
    | .message m => (l.client.write m.frame).1
    | .raw bytes => { l.client with outgoing := l.client.outgoing ++ bytes }
  exchange { l with client }

/-- The client sends no more. -/
def clientEnd (l : Loopback) : Loopback :=
  { l with
    server := { l.server with stream := { l.server.stream with finished := true } }
    client := { l.client with writable := false } }

/-- The client goes away: the server can read what was sent and write nothing. -/
def clientDrop (l : Loopback) : Loopback :=
  { l with
    server := { l.server with
      stream := { l.server.stream with finished := true, writable := false } }
    dropped := true }

/-- What the client reads, if it is there. -/
def clientRead (l : Loopback) : Loopback × Option (List Message) :=
  if l.dropped then (l, none)
  else
    let (client, messages) := l.exchange.client.readAll
    (exchange { l.exchange with client }, some messages)

/-- Something that the server does with its socket. -/
def onServer {α : Type} (l : Loopback) (act : Socket Endpoint → Socket Endpoint × α) :
    Loopback × α :=
  let (server, a) := act l.server
  (exchange { l with server }, a)

end Loopback

end Conduit.WebSocket
