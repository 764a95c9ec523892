import Conduit.Pipeline.Contract
import Conduit.Error.Pipeline

/-!
The `req` stage's decoder: which sources of a request it decodes, and up to what size.
-/

namespace Conduit

structure Decoder where
  query : Bool
  form : Bool
  json : Bool
  limit : Nat
  deriving DecidableEq, Repr, Inhabited

namespace Decoder

/-- Selects the source of a letter. -/
def select (value : String) (d : Decoder) (letter : Char) : Except PipelineError Decoder :=
  match letter.toUpper with
  | 'Q' => .ok { d with query := true }
  | 'F' => .ok { d with form := true }
  | 'J' => .ok { d with json := true }
  | other => .error (.configuration (.unknownSource other value))

/-- Reads the letters of the sources; without any, the query is decoded. -/
def parse (value : String) (limit : Nat) : Except PipelineError Decoder :=
  let value := Text.trim value
  if value = "" then .ok ⟨true, false, false, limit⟩
  else value.toList.foldlM (select value) ⟨false, false, false, limit⟩

/-- Decodes a source if it is selected. -/
def source (selected : Bool) (decode : Except ExtractionError Json) :
    Except ExtractionError (Option Json) :=
  if selected then decode.map some else .ok none

/-- Decodes the selected sources of a request: query, then form, then JSON. -/
def decode (d : Decoder) (c : Contract) (x : Exchange) : Except ExtractionError Request := do
  let query ← source d.query (c.decodeQuery x)
  let form ← source d.form (c.decodeForm x d.limit)
  let json ← source d.json (c.decodeJson x.body d.limit .body)
  return ⟨query, form, json, x.params⟩

/-- Decodes a frame of a connection that the request opened. A frame is always JSON; forms play no
part. -/
def decodeFrame (d : Decoder) (c : Contract) (x : Exchange) (frame : Bytes) :
    Except ExtractionError Request := do
  let query ← source d.query (c.decodeQuery x)
  let json ← c.decodeJson frame d.limit .frame
  return ⟨query, none, some json, x.params⟩

end Decoder

end Conduit
