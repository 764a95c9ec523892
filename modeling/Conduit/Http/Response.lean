import Conduit.Http.Header
import Conduit.Json.Writer

/-!
Responses: a status, header lines and a body.
-/

namespace Conduit

/-- A status code. -/
structure Status where
  code : Nat
  deriving DecidableEq, Repr, Inhabited

namespace Status

def switchingProtocols : Status := ⟨101⟩
def ok : Status := ⟨200⟩
def badRequest : Status := ⟨400⟩
def unauthorized : Status := ⟨401⟩
def notFound : Status := ⟨404⟩
def methodNotAllowed : Status := ⟨405⟩
def payloadTooLarge : Status := ⟨413⟩
def internalError : Status := ⟨500⟩
def gatewayTimeout : Status := ⟨504⟩

/-- Codes have three digits. -/
def ofCode? (code : Nat) : Option Status :=
  if 100 ≤ code ∧ code ≤ 999 then some ⟨code⟩ else none

def isClientError (s : Status) : Bool := 400 ≤ s.code && s.code < 500

end Status

structure Response where
  status : Status
  headers : Headers
  body : Bytes
  deriving DecidableEq, Repr, Inhabited

namespace Response

def empty (status : Status) : Response := ⟨status, .empty, []⟩

/-- A body under its content type. -/
def withBody (status : Status) (contentType : String) (body : Bytes) : Response :=
  ⟨status, Headers.empty.append "content-type" (Utf8.encode contentType), body⟩

def json (status : Status) (body : Json) : Response :=
  withBody status "application/json" (Utf8.encode body.text)

end Response

end Conduit
