import Conduit.Pipeline.Session
import Conduit.WebSocket.Loopback

/-!
Sessions in memory: a client queues its frames and then ends or disappears, and the session is run
against it.
-/

namespace Conduit.Session

open WebSocket (Endpoint ClientFrame Loopback Message)

/-- Runs a session against a client, and gives what the client reads after it, if it is there. -/
def rehearse (op : Operation) (ctx : Context) (frames : List ClientFrame) (disappears : Bool) :
    SessionRun Endpoint × Option (List Message) :=
  let queued := frames.foldl Loopback.clientSend .initial
  let (after, done) := (if disappears then queued.clientDrop else queued.clientEnd).onServer
    fun s =>
      let done := run op Endpoint.transport ctx s
      (done.socket, done)
  (done, after.clientRead.2)

end Conduit.Session
