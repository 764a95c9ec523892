import Conduit.Server.Shutdown

/-!
The life of a server: connections are accepted and tracked, some are upgraded and go on as
sessions, and serving ends when no tracked connection is left or the time to wait is up.
-/

namespace Conduit

/-- How serving came to its end. -/
inductive Ending
  /-- No tracked connection was left. -/
  | drained
  /-- The time to wait for connections was up. -/
  | expired
  deriving DecidableEq, Repr, Inhabited

/-- A server at work. A connection is known by the token that tracks it. -/
structure Serving where
  shutdown : Shutdown
  accepting : Bool
  /-- The connections that requests are read from. -/
  connections : List Nat
  /-- The connections that are closed or handed over, while their task still holds its token. -/
  leaving : List Nat
  /-- The sessions that wait for their connection to be handed over. -/
  waiting : List Nat
  /-- The upgraded connections whose session goes on. -/
  sessions : List Nat
  ending : Option Ending
  deriving DecidableEq, Repr, Inhabited

namespace Serving

/-- What may happen next. The tasks of connections and of sessions go on by themselves, also after
serving has ended. -/
inductive Event
  /-- A connection is taken. -/
  | accept
  /-- An upgrade is accepted on a connection, and its session waits for the connection. -/
  | answerUpgrade (token : Nat)
  /-- A connection is handed over to the session that waits for it. -/
  | upgrade (token : Nat)
  /-- A connection ends without being handed over. -/
  | close (token : Nat)
  /-- The task of a connection ends and gives back its token. -/
  | leave (token : Nat)
  /-- A session whose connection was never handed over ends. -/
  | giveUp (token : Nat)
  | endSession (token : Nat)
  /-- Shutdown is asked for. -/
  | signal
  /-- No more connections are taken. -/
  | stop
  /-- Serving ends as no tracked connection is left. -/
  | drain
  /-- Serving ends as the time to wait is up. -/
  | expire
  deriving DecidableEq, Repr

def initial : Serving := ⟨.initial, true, [], [], [], [], none⟩

/-- Only an accepting server takes connections, and only one that has stopped accepting ends. -/
def allows (s : Serving) : Event → Bool
  | .accept => s.accepting
  | .answerUpgrade token => token ∈ s.connections && token ∉ s.waiting
  | .upgrade token => token ∈ s.connections && token ∈ s.waiting
  | .close token => token ∈ s.connections
  | .leave token => token ∈ s.leaving
  | .giveUp token => token ∈ s.waiting && token ∉ s.connections
  | .endSession token => token ∈ s.sessions
  | .signal => true
  | .stop => s.accepting && s.shutdown.triggered
  | .drain => !s.accepting && s.ending.isNone && s.shutdown.isIdle
  | .expire => !s.accepting && s.ending.isNone

def after (s : Serving) : Event → Serving
  | .accept =>
    { s with
      shutdown := s.shutdown.acquire.1
      connections := s.connections ++ [s.shutdown.acquire.2] }
  | .answerUpgrade token => { s with waiting := s.waiting ++ [token] }
  | .upgrade token =>
    { s with
      connections := s.connections.erase token
      leaving := s.leaving ++ [token]
      waiting := s.waiting.erase token
      sessions := s.sessions ++ [token] }
  | .close token =>
    { s with connections := s.connections.erase token, leaving := s.leaving ++ [token] }
  | .leave token =>
    { s with shutdown := s.shutdown.release token, leaving := s.leaving.erase token }
  | .giveUp token => { s with waiting := s.waiting.erase token }
  | .endSession token => { s with sessions := s.sessions.erase token }
  | .signal => { s with shutdown := s.shutdown.trigger }
  | .stop => { s with accepting := false }
  | .drain => { s with ending := some .drained }
  | .expire => { s with ending := some .expired }

/-- What a server comes to from its start, if the events can happen in this order. -/
def run? (trace : List Event) : Option Serving :=
  trace.foldlM (fun s e => if s.allows e then some (s.after e) else none) initial

/-- Whether an accepted connection is still being served: requests are read from it, or a session
has it. -/
def Serves (s : Serving) (token : Nat) : Prop := token ∈ s.connections ∨ token ∈ s.sessions

instance (s : Serving) (token : Nat) : Decidable (s.Serves token) :=
  inferInstanceAs (Decidable (_ ∨ _))

end Serving

end Conduit
