import Conduit.Http.Response
import Conduit.Shape.Basic
import Conduit.Uuid

/-!
Errors as clients see them: the category of an error, a handler's own error, and the envelope that
error responses carry.
-/

namespace Conduit

inductive ErrorCategory
  | validation | authentication | notFound | methodNotAllowed | business | internal | timeout
  deriving DecidableEq, Repr, Inhabited

namespace ErrorCategory

def all : List ErrorCategory :=
  [validation, authentication, notFound, methodNotAllowed, business, internal, timeout]

def name : ErrorCategory → String
  | validation => "validation"
  | authentication => "authentication"
  | notFound => "not_found"
  | methodNotAllowed => "method_not_allowed"
  | business => "business"
  | internal => "internal"
  | timeout => "timeout"

def ofName? (name : String) : Option ErrorCategory := all.find? (·.name == name)

/-- The status of an error of which nothing more is known. -/
def status : ErrorCategory → Status
  | validation | business => .badRequest
  | authentication => .unauthorized
  | notFound => .notFound
  | methodNotAllowed => .methodNotAllowed
  | internal => .internalError
  | timeout => .gatewayTimeout

end ErrorCategory

/-- An error that a handler returns. -/
structure ApiError where
  key : String
  code : Int
  message : String
  status : Status
  deriving DecidableEq, Repr, Inhabited

namespace ApiError

/-- An error with the status of business errors. -/
def ofParts (key : String) (code : Int) (message : String) : ApiError :=
  ⟨key, code, message, ErrorCategory.business.status⟩

def unknown : ApiError := ⟨"CommonErr.UNKNOWN", -1, "unknown error", .internalError⟩

def tokenExpired : ApiError := ⟨"CommonErr.TOKEN_EXPIRE", 55555, "token expired", .unauthorized⟩

def display (e : ApiError) : String := s!"{e.key} ({e.code}): {e.message}"

/-- The body of an error that no wrapper is wanted around. -/
def bareBody (e : ApiError) : Json :=
  .object [("error", .str e.key), ("detail", .str e.message)]

/-- The body of an error that is reported under its code. -/
def codedBody (e : ApiError) : Json :=
  .object [("code", .int e.code), ("message", .str e.message)]

end ApiError

/-- What an error response says. -/
structure Envelope where
  category : ErrorCategory
  code : String
  message : String
  details : Option Json
  requestId : Option String
  deriving Inhabited

namespace Envelope

def ofParts (category : ErrorCategory) (code message : String) : Envelope :=
  ⟨category, code, message, none, none⟩

def withRequestId (e : Envelope) (id : RequestId) : Envelope :=
  { e with requestId := some id.text }

/-- A member that is left out if there is nothing to say. -/
def optional (name : String) : Option Json → List (String × Json)
  | none => []
  | some value => [(name, value)]

def toJson (e : Envelope) : Json :=
  let error : Json := .object ([("category", .str e.category.name), ("code", .str e.code)]
    ++ optional "details" e.details ++ [("message", .str e.message)])
  .object ([("error", error)] ++ optional "request_id" (e.requestId.map .str))

def response (status : Status) (e : Envelope) : Response := .json status e.toJson

/-- The shape of an envelope in JSON. -/
def shape : Shape :=
  .record "ErrorEnvelope" false [
    ("error", none, .record "ErrorDetail" false [
      ("code", none, .text),
      ("message", none, .text),
      ("category", none, .choice (ErrorCategory.all.map ErrorCategory.name)),
      ("details", none, .option .any)]),
    ("request_id", none, .option .text)]

/-- The envelope that JSON of its shape stands for. -/
def ofJson? (j : Json) : Option Envelope := do
  let error ← j.get? "error"
  let category ← (← (← error.get? "category").str?) |> ErrorCategory.ofName?
  let code ← (← error.get? "code").str?
  let message ← (← error.get? "message").str?
  let details := (error.get? "details").filter (! ·.isNull)
  return ⟨category, code, message, details, (j.get? "request_id").bind Json.str?⟩

end Envelope

end Conduit
