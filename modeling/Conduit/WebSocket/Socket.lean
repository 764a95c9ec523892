import Conduit.WebSocket.Endpoint

/-!
A server's socket over any transport of messages: it counts data frames both ways and closes once.
-/

namespace Conduit.WebSocket

/-- What a transport gives to a reader that leaves pings and pongs to it. -/
inductive Event
  | text (s : String)
  | binary (data : Bytes)
  | close (reason : Option (Nat × String))
  | failed (e : TransportError)
  | ended
  /-- Nothing yet. -/
  | pending
  deriving DecidableEq, Repr, Inhabited

/-- Something that messages are read from and written to. -/
structure Transport (σ : Type) where
  receive : σ → σ × Event
  send : σ → String → σ × Option TransportError
  /-- Sends a close frame with the normal code and a reason. -/
  close : σ → String → σ × Option TransportError
  /-- A bound on the data frames that can still be received. -/
  budget : σ → Nat

/-- The events that an end of a connection reads. -/
def Endpoint.receive (e : Endpoint) : Endpoint × Event :=
  match e.readData with
  | (e, .message (.text s)) => (e, .text s)
  | (e, .message (.binary data)) => (e, .binary data)
  | (e, .message (.close reason)) => (e, .close reason)
  | (e, .message _) => (e, .pending)
  | (e, .failed fault) => (e, .failed fault)
  | (e, .ended) => (e, .ended)
  | (e, .pending) => (e, .pending)

/-- The code of a close without complaint. -/
def normalClose : Nat := 1000

/-- An end of a connection as a transport: every frame that it reads takes bytes. -/
def Endpoint.transport : Transport Endpoint where
  receive := Endpoint.receive
  send e s := e.write (Message.text s).frame
  close e reason := e.write (.closing (some (normalClose, reason)))
  budget e := e.incoming.length

/-- A transport that plays a list of events and lets the sends succeed or fail as listed; once the
list is over, sends succeed. It keeps what was sent. -/
structure Script where
  events : List Event
  sends : List (Option TransportError)
  sent : List String
  closed : List String
  deriving DecidableEq, Repr, Inhabited

namespace Script

def ofEvents (events : List Event) (sends : List (Option TransportError)) : Script :=
  ⟨events, sends, [], []⟩

def receive (s : Script) : Script × Event :=
  match s.events with
  | [] => (s, .ended)
  | event :: rest => ({ s with events := rest }, event)

def send (s : Script) (text : String) : Script × Option TransportError :=
  match s.sends with
  | [] => ({ s with sent := s.sent ++ [text] }, none)
  | none :: rest => ({ s with sends := rest, sent := s.sent ++ [text] }, none)
  | some fault :: rest => ({ s with sends := rest }, some fault)

def transport : Transport Script where
  receive := receive
  send := send
  close s reason := ({ s with closed := s.closed ++ [reason] }, none)
  budget s := s.events.length

end Script

structure Socket (σ : Type) where
  stream : σ
  received : Nat
  sent : Nat
  closed : Bool
  deriving Repr

inductive Incoming
  | text (s : String)
  | binary (data : Bytes)
  | close (reason : Option (Nat × String))
  deriving DecidableEq, Repr, Inhabited

/-- What a socket's reader gets. -/
inductive Received
  | incoming (i : Incoming)
  | failed (e : WebSocketError)
  | ended
  | pending
  deriving DecidableEq, Repr, Inhabited

namespace Socket

variable {σ : Type}

def ofStream (stream : σ) : Socket σ := ⟨stream, 0, 0, false⟩

/-- Receives a frame and counts it if it holds data. A close frame closes the socket, and so does a
transport that says it is closed. -/
def recv (t : Transport σ) (s : Socket σ) : Socket σ × Received :=
  let (stream, event) := t.receive s.stream
  let s := { s with stream }
  match event with
  | .text text => ({ s with received := s.received + 1 }, .incoming (.text text))
  | .binary data => ({ s with received := s.received + 1 }, .incoming (.binary data))
  | .close reason => ({ s with closed := true }, .incoming (.close reason))
  | .failed .connectionClosed | .failed .alreadyClosed => ({ s with closed := true }, .ended)
  | .failed e => (s, .failed (.receiveFailed e.message))
  | .ended => (s, .ended)
  | .pending => (s, .pending)

/-- Sends a text frame and counts it if it was sent. -/
def sendText (t : Transport σ) (s : Socket σ) (text : String) :
    Socket σ × Option WebSocketError :=
  match t.send s.stream text with
  | (stream, none) => ({ s with stream, sent := s.sent + 1 }, none)
  | (stream, some e) => ({ s with stream }, some (.sendFailed e.message))

/-- Closes the socket, unless it is closed. -/
def close (t : Transport σ) (s : Socket σ) (reason : String) :
    Socket σ × Option WebSocketError :=
  if s.closed then (s, none)
  else
    match t.close s.stream reason with
    | (stream, none) | (stream, some .connectionClosed) => ({ s with stream, closed := true }, none)
    | (stream, some e) => ({ s with stream, closed := true }, some (.transport e))

end Socket

end Conduit.WebSocket
