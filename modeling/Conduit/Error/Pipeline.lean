import Conduit.Error.Api
import Conduit.Error.Extraction
import Conduit.WebSocket.Error
import Conduit.Routing.Pattern
import Conduit.Spec

/-!
Errors that stop a pipeline or keep one from being built, and the responses they are answered with.
-/

namespace Conduit

/-- What is wrong with a registration. -/
inductive Misconfiguration
  | unknownSource (letter : Char) (value : String)
  | unknownMedia (media : String)
  | unknownWrapper (wrapper : String)
  | wrapperNeedsJson
  | unresolved (spec : Spec) (tokens : List Token)
  | alreadyRegistered (method : Method) (path : String)
  | emptySpec (method : Method) (path : String)
  | pattern (fault : Routing.PatternError)
  | other (text : String)
  deriving DecidableEq, Repr

def Misconfiguration.message : Misconfiguration → String
  | unknownSource letter value =>
    s!"req: unknown source {Text.quoted letter.toString} in {Text.quoted value} "
      ++ "(expected Q, F or J)"
  | unknownMedia media =>
    s!"rsp: unknown media {Text.quoted media} (expected json, html or text)"
  | unknownWrapper wrapper =>
    s!"rsp: unknown wrapper {Text.quoted wrapper} (expected none or general)"
  | wrapperNeedsJson => "rsp: the general wrapper requires json media"
  | unresolved spec tokens =>
    let listed := Text.joinWith ", " (tokens.map fun t => Text.quoted t.text)
    s!"unresolved tokens in {Text.quoted spec.text}: {listed}"
  | alreadyRegistered method path => s!"{method.name} {path} is already registered"
  | emptySpec method path => s!"{method.name} {path} has an empty spec and no default spec"
  | pattern fault => fault.message
  | other text => text

/-- Why credentials are not accepted. -/
inductive AuthFault
  | missingHeader
  | notBearer
  | emptyToken
  | malformedToken
  | malformedClaims (reason : String)
  | claimsNotObject
  | expiryNotTimestamp
  | expired
  | missingKey
  | other (text : String)
  deriving DecidableEq, Repr

def AuthFault.message : AuthFault → String
  | missingHeader => "missing authorization header"
  | notBearer => "authorization header is not a bearer token"
  | emptyToken => "empty bearer token"
  | malformedToken => "malformed token"
  | malformedClaims reason => s!"malformed token claims: {reason}"
  | claimsNotObject => "token claims are not an object"
  | expiryNotTimestamp => "token " ++ Text.quoted "exp" ++ " is not a timestamp"
  | expired => "token expired"
  | missingKey => "missing API key"
  | other text => text

inductive PipelineError
  | configuration (cause : Misconfiguration)
  | registrySealed (name : String)
  | decode (e : ExtractionError)
  | auth (cause : AuthFault)
  | handler (e : ApiError)
  | encode (reason : String)
  | upgrade (e : WebSocketError)
  | missingStage (stage : String) (status : Status)
  deriving DecidableEq, Repr

namespace PipelineError

def missingRequest : PipelineError := .missingStage "request" .badRequest

def missingHandle : PipelineError := .missingStage "handle" .internalError

def message : PipelineError → String
  | configuration cause => s!"configuration error: {cause.message}"
  | registrySealed name =>
    s!"provider registry is sealed, cannot register {Text.quoted name}"
  | decode e => s!"decode error: {e.message}"
  | auth cause => s!"authentication failed: {cause.message}"
  | handler e => s!"handler error: {e.display}"
  | encode reason => s!"encode error: {reason}"
  | upgrade e => s!"upgrade error: {e.message}"
  | missingStage stage _ => s!"{stage} stage missing"

def category : PipelineError → ErrorCategory
  | decode _ | upgrade _ => .validation
  | missingStage _ status => if status.isClientError then .validation else .internal
  | auth _ => .authentication
  | handler _ => .business
  | configuration _ | registrySealed _ | encode _ => .internal

def status : PipelineError → Status
  | decode e => e.status
  | handler e => e.status
  | missingStage _ status => status
  | e => e.category.status

def code : PipelineError → String
  | configuration _ => "CONFIGURATION_ERROR"
  | registrySealed _ => "REGISTRY_SEALED"
  | decode e => e.code
  | auth _ => "AUTHENTICATION_ERROR"
  | handler e => e.key
  | encode _ => "ENCODE_ERROR"
  | upgrade _ => "UPGRADE_ERROR"
  | missingStage .. => "MISSING_STAGE"

/-- A handler's error is told with its code; no other error has details. -/
def details : PipelineError → Option Json
  | handler e => some (.object [("code", .int e.code)])
  | _ => none

def envelope (e : PipelineError) (id : Option RequestId) : Envelope :=
  ⟨e.category, e.code, e.message, e.details, id.map Uuid.text⟩

/-- The response that tells the error under the id of its request. -/
def response (e : PipelineError) (id : RequestId) : Response :=
  (e.envelope (some id)).response e.status

end PipelineError

end Conduit
