import Conduit.Exchange
import Conduit.Error.Api
import Conduit.Error.Extraction
import Conduit.Shape.FromForm
import Conduit.Shape.FromJson

/-!
What a route declares of its requests: how the query, a form body and a JSON body are decoded. The
decoded request is what handlers are given.
-/

namespace Conduit

/-- Decoders of the three sources of a request's data. -/
structure Contract where
  query : String → Except Mismatch Json
  form : String → Except Mismatch Json
  json : Bytes → Except Json.Error Json

namespace Contract

/-- The contract whose sources have these shapes. -/
def ofShapes (query form json : Shape) : Contract where
  query s := query.ofPairs (Form.pairs (Utf8.encode s))
  form s := form.ofPairs (Form.pairs (Utf8.encode s))
  json := json.ofJson

def defaultLimit : Nat := 1024 * 1024

/-- Decodes the query; a target without one has an empty query. -/
def decodeQuery (c : Contract) (x : Exchange) : Except ExtractionError Json :=
  match c.query (x.query?.getD "") with
  | .ok value => .ok value
  | .error m => .error (.undecodable .query (m.message Shape.formStyle))

/-- Decodes a form body: its size, then its encoding, then its fields. -/
def decodeForm (c : Contract) (x : Exchange) (limit : Nat) : Except ExtractionError Json :=
  if limit < x.body.length then .error (.tooLarge limit x.body.length)
  else match Utf8.decode x.body with
    | .error fault => .error (.undecodable .body s!"invalid UTF-8: {fault.message}")
    | .ok text =>
      match c.form text with
      | .ok value => .ok value
      | .error m => .error (.undecodable .body (m.message Shape.formStyle))

/-- Decodes a JSON document: its size, then whether there is one, then the document. -/
def decodeJson (c : Contract) (bs : Bytes) (limit : Nat) (source : DataSource) :
    Except ExtractionError Json :=
  if limit < bs.length then .error (.tooLarge limit bs.length)
  else if bs.isEmpty then .error (.missing source "empty JSON document")
  else match c.json bs with
    | .ok value => .ok value
    | .error e => .error (.undecodable source e.message)

end Contract

/-- A decoded request: a source is present if the chain decodes it. -/
structure Request where
  query : Option Json
  form : Option Json
  json : Option Json
  params : Params
  deriving Inhabited

def Request.empty (params : Params) : Request := ⟨none, none, none, params⟩

/-- What a handler answers with: a value, or something that no JSON can hold. -/
inductive Payload
  | value (j : Json)
  | unencodable (reason : String)
  deriving Inhabited

abbrev HandlerResult := Except ApiError Payload

end Conduit
