import Conduit.Shape.FromJson

/-!
The frames of the demo's WebSocket routes, in both directions.
-/

namespace Conduit.Demo

inductive MessageKind
  | ping | pong | join | leave | foreground | upgrade
  deriving DecidableEq, Repr, Inhabited

namespace MessageKind

def all : List MessageKind := [ping, pong, join, leave, foreground, upgrade]

def name : MessageKind → String
  | ping => "ping"
  | pong => "pong"
  | join => "join"
  | leave => "leave"
  | foreground => "foreground"
  | upgrade => "upgrade"

def ofName? (name : String) : Option MessageKind := all.find? (·.name == name)

/-- The kind of a message that does not say. -/
def standard : MessageKind := ping

def shape : Shape := .choice (all.map name)

/-- A ping is answered with a pong, and every other kind with itself. -/
def reply : MessageKind → MessageKind
  | ping => pong
  | kind => kind

end MessageKind

structure Message where
  kind : MessageKind
  data : Json
  deriving Inhabited

namespace Message

def shape : Shape :=
  .record "WsMessage" false [
    ("type", none, MessageKind.shape),
    ("data", some .null, .any)]

def ofJson? (j : Json) : Option Message := do
  let kind ← MessageKind.ofName? (← (← j.get? "type").str?)
  return ⟨kind, (j.get? "data").getD .null⟩

def toJson (m : Message) : Json := .object [("type", .str m.kind.name), ("data", m.data)]

/-- The answer to a message carries its data back. -/
def reply (m : Message) : Message := { m with kind := m.kind.reply }

end Message

end Conduit.Demo
