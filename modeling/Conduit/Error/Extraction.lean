import Conduit.Http.Response

/-!
Why a request's data cannot be decoded.
-/

namespace Conduit

/-- Where decoded data comes from. -/
inductive DataSource
  | path | query | body | frame
  deriving DecidableEq, Repr, Inhabited

def DataSource.name : DataSource → String
  | path => "path"
  | query => "query"
  | body => "body"
  | frame => "frame"

inductive ExtractionError
  | missing (source : DataSource) (what : String)
  | undecodable (source : DataSource) (reason : String)
  | tooLarge (limit size : Nat)
  deriving DecidableEq, Repr, Inhabited

namespace ExtractionError

def message : ExtractionError → String
  | missing source what => s!"missing {source.name}: {what}"
  | undecodable source reason => s!"failed to deserialize {source.name}: {reason}"
  | tooLarge limit size => s!"payload too large: max {limit} bytes, got {size} bytes"

/-- Where the data came from; sizes are told of bodies. -/
def source : ExtractionError → DataSource
  | missing source _ => source
  | undecodable source _ => source
  | tooLarge .. => .body

def status : ExtractionError → Status
  | missing .. | undecodable .. => .badRequest
  | tooLarge .. => .payloadTooLarge

def code : ExtractionError → String
  | missing .. => "MISSING_INPUT"
  | undecodable .. => "DESERIALIZATION_FAILED"
  | tooLarge .. => "PAYLOAD_TOO_LARGE"

end ExtractionError

end Conduit
