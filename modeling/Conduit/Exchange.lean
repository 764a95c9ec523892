import Conduit.Http.Uri
import Conduit.Http.Response
import Conduit.Routing.Router
import Conduit.Uuid

/-!
An exchange: one request with its id and path parameters, the state that stages leave for each
other, and the response once there is one.
-/

namespace Conduit

/-- A value that a stage leaves under a key. -/
inductive StateValue
  | text (s : String)
  | word (n : UInt32)
  | flag (b : Bool)
  deriving DecidableEq, Repr, Inhabited

namespace StateValue

inductive Kind | text | word | flag
  deriving DecidableEq, Repr, Inhabited

def kind : StateValue → Kind
  | text _ => .text
  | word _ => .word
  | flag _ => .flag

end StateValue

structure Exchange where
  method : Method
  uri : Uri
  headers : Headers
  body : Bytes
  params : Params
  requestId : RequestId
  state : List (String × StateValue)
  response : Option Response

namespace Exchange

def requestIdHeader : String := "x-request-id"

/-- The id that a request brings: its first id line, if it is text and well formed. -/
def suppliedId? (h : Headers) : Option RequestId :=
  (h.text? requestIdHeader).bind RequestId.parse?

/-- An exchange without headers or body, under a fresh id. -/
def ofTarget (fresh : RequestId) (method : Method) (uri : Uri) : Exchange :=
  ⟨method, uri, .empty, [], .empty, fresh, [], none⟩

/-- An exchange for a whole request. It takes the id that the request brings, else the fresh one. -/
def ofRequest (fresh : RequestId) (method : Method) (uri : Uri) (headers : Headers)
    (body : Bytes) : Exchange :=
  ⟨method, uri, headers, body, .empty, (suppliedId? headers).getD fresh, [], none⟩

/-- Adds a header line, if its name and value are legal. -/
def addHeader (x : Exchange) (name value : String) : Exchange :=
  match Header.name? name, Header.value? (Utf8.encode value) with
  | some name, some value => { x with headers := x.headers.append name value }
  | _, _ => x

def path (x : Exchange) : String := x.uri.path

def query? (x : Exchange) : Option String := x.uri.query

/-- The first header line of that name, in any case, if it is visible text. -/
def header? (x : Exchange) (name : String) : Option String :=
  x.headers.text? (Text.lower name)

/-- Leaves a value under a key, in place of any that is there. -/
def putState (x : Exchange) (key : String) (value : StateValue) : Exchange :=
  { x with state := (key, value) :: x.state.filter (·.1 ≠ key) }

/-- The value under a key, if it is of that kind. -/
def state? (x : Exchange) (key : String) (kind : StateValue.Kind) : Option StateValue :=
  (x.state.lookup key).filter (·.kind = kind)

/-- Removes a value of that kind; one of another kind stays. -/
def takeState (x : Exchange) (key : String) (kind : StateValue.Kind) :
    Option StateValue × Exchange :=
  match x.state? key kind with
  | some value => (some value, { x with state := x.state.filter (·.1 ≠ key) })
  | none => (none, x)

def textState? (x : Exchange) (key : String) : Option String :=
  match x.state? key .text with
  | some (.text s) => some s
  | _ => none

def setResponse (x : Exchange) (r : Response) : Exchange := { x with response := some r }

def takeResponse (x : Exchange) : Option Response × Exchange :=
  (x.response, { x with response := none })

end Exchange

end Conduit
