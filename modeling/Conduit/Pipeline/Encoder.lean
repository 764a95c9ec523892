import Conduit.Pipeline.Contract
import Conduit.Error.Pipeline

/-!
The `rsp` stage's encoder: how a handler's result becomes a body.
-/

namespace Conduit

inductive Media
  | json | html | text
  deriving DecidableEq, Repr, Inhabited

namespace Media

def contentType : Media → String
  | json => "application/json"
  | html => "text/html; charset=utf-8"
  | text => "text/plain; charset=utf-8"

def name : Media → String
  | json => "Json"
  | html => "Html"
  | text => "Text"

def parse (value : String) : Except PipelineError Media :=
  match Text.lower (Text.trim value) with
  | "" | "json" => .ok json
  | "html" => .ok html
  | "text" => .ok text
  | other => .error (.configuration (.unknownMedia other))

end Media

/-- What results are wrapped in: nothing, or an object that tells success by a code. -/
inductive Wrapper
  | none | general
  deriving DecidableEq, Repr, Inhabited

namespace Wrapper

def name : Wrapper → String
  | none => "None"
  | general => "General"

def parse (value : String) : Except PipelineError Wrapper :=
  match Text.lower (Text.trim value) with
  | "" | "none" => .ok none
  | "general" => .ok general
  | other => .error (.configuration (.unknownWrapper other))

end Wrapper

structure Encoder where
  media : Media
  wrapper : Wrapper
  deriving DecidableEq, Repr

/-- What an encoder makes of a result. -/
structure Encoded where
  status : Status
  contentType : String
  body : String
  deriving DecidableEq, Repr, Inhabited

namespace Encoder

def plainJson : Encoder := ⟨.json, .none⟩

instance : Inhabited Encoder := ⟨plainJson⟩

/-- Reads `media@wrapper`; either part may be left out. -/
def parse (value : String) : Except PipelineError Encoder := do
  let (media, wrapper) := (Text.splitFirst '@' value).getD (value, "")
  let media ← Media.parse media
  let wrapper ← Wrapper.parse wrapper
  if wrapper = .general ∧ media ≠ .json then throw (.configuration .wrapperNeedsJson)
  return ⟨media, wrapper⟩

def payloadJson : Payload → Except PipelineError Json
  | .value j => .ok j
  | .unencodable reason => .error (.encode reason)

/-- The body of a success inside the general wrapper. -/
def generalBody (data : Json) : Json :=
  .object [("code", .int 0), ("message", .str ""), ("data", data)]

/-- JSON takes any value; other media take a string as it is. -/
def encode (e : Encoder) (result : HandlerResult) : Except PipelineError Encoded :=
  match result, e.wrapper with
  | .ok payload, .none => do
    let value ← payloadJson payload
    match e.media, value with
    | .json, value => return ⟨.ok, e.media.contentType, value.text⟩
    | _, .str body => return ⟨.ok, e.media.contentType, body⟩
    | media, _ => throw (.encode s!"{media.name} response must serialize to a string")
  | .ok payload, .general => do
    let value ← payloadJson payload
    return ⟨.ok, Media.json.contentType, (generalBody value).text⟩
  | .error err, .none => .ok ⟨err.status, Media.json.contentType, err.bareBody.text⟩
  | .error err, .general => .ok ⟨.ok, Media.json.contentType, err.codedBody.text⟩

/-- The result as a response. -/
def render (e : Encoder) (result : HandlerResult) : Except PipelineError Response :=
  (e.encode result).map fun r => .withBody r.status r.contentType (Utf8.encode r.body)

/-- The result as the text of a frame. -/
def encodeFrame (e : Encoder) (result : HandlerResult) : Except PipelineError String :=
  (e.encode result).map (·.body)

end Encoder

/-- The response for an error that no encoder has rendered. -/
def ApiError.bareResponse (e : ApiError) : Response := .json e.status e.bareBody

end Conduit
