import Conduit.Error.Pipeline

/-!
Errors as JSON, to be looked at: each by its kind and its message.
-/

namespace Conduit

def Json.failure (kind message : String) : Json :=
  .object [("error", .str kind), ("message", .str message)]

def ApiError.toJson (e : ApiError) : Json :=
  .object [("key", .str e.key), ("code", .int e.code), ("message", .str e.message),
    ("status", .nat e.status.code), ("display", .str e.display)]

def ExtractionError.toJson (e : ExtractionError) : Json :=
  .object [("error", .str e.code), ("message", .str e.message), ("status", .nat e.status.code),
    ("source", .str e.source.name)]

def Routing.PatternError.kind : PatternError → String
  | .wildcardNotLast _ => "WildcardNotLast"
  | .emptyName _ => "EmptyName"
  | .conflictingName .. => "ConflictingName"
  | .duplicate .. => "Duplicate"

def Routing.PatternError.toJson (e : PatternError) : Json := .failure e.kind e.message

def WebSocketError.kind : WebSocketError → String
  | .notUpgrade _ => "NotWebSocketRequest"
  | .upgradeFailed _ => "UpgradeFailed"
  | .sendFailed _ => "SendFailed"
  | .receiveFailed _ => "ReceiveFailed"
  | .transport _ => "Tungstenite"

def WebSocketError.toJson (e : WebSocketError) : Json := .failure e.kind e.message

def PipelineError.kind : PipelineError → String
  | .configuration _ => "Configuration"
  | .registrySealed _ => "RegistrySealed"
  | .decode _ => "Decode"
  | .auth _ => "Auth"
  | .handler _ => "Handler"
  | .encode _ => "Encode"
  | .upgrade _ => "Upgrade"
  | .missingStage .. => "MissingStage"

def PipelineError.toJson (e : PipelineError) : Json := .failure e.kind e.message

/-- An error with all that clients and logs are told of it, under an id if there is one. -/
def PipelineError.members (e : PipelineError) (id : Option RequestId) : List (String × Json) :=
  [("display", .str e.message), ("kind", .str e.kind), ("category", .str e.category.name),
    ("status", .nat e.status.code), ("code", .str e.code), ("envelope", (e.envelope id).toJson)]

end Conduit
