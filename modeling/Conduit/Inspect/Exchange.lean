import Conduit.Exchange
import Conduit.Inspect.Http
import Conduit.Inspect.Routing

/-!
Exchanges and the state they carry as JSON, to be looked at.
-/

namespace Conduit

def StateValue.toJson : StateValue → Json
  | .text s => .str s
  | .word n => .nat n.toNat
  | .flag b => .bool b

def Exchange.toJson (x : Exchange) : Json :=
  .object [
    ("method", .str x.method.name), ("uri", .str x.uri.text), ("path", .str x.path),
    ("query", .ofOption .str x.query?), ("headers", x.headers.toJson),
    ("body", .str (Hex.encode x.body)), ("params", x.params.toJson),
    ("request_id", .str x.requestId.text), ("id_version", .nat x.requestId.version)]

/-- What a text is as an id, read with and without blanks around it, beside a fresh id. -/
def RequestId.readings (text : String) (fresh : RequestId) : Json :=
  let trimmed := RequestId.parse? text
  let parsed := Json.ofOption (fun id : RequestId => .str id.text) trimmed
  .object [
    ("parsed", parsed), ("serialized", parsed),
    ("version", .ofOption (fun id : RequestId => .nat id.version) trimmed),
    ("deserialized", .ofOption (fun id : Uuid => .str id.text) (Uuid.parse? text)),
    ("from_uuid", .ofOption (fun _ => .bool true) trimmed),
    ("new_version", .nat fresh.version), ("default_version", .nat fresh.version)]

end Conduit
