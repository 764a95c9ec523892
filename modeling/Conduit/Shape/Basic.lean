import Conduit.Json.Basic
import Conduit.Mismatch

/-!
Declared shapes of data. Reading some format into a shape checks it and gives a JSON value with
every field present.
-/

namespace Conduit

/-- A width of whole numbers: its name and its range. -/
structure Width where
  name : String
  low : Int
  high : Int
  deriving DecidableEq, Repr

namespace Width

def unsigned (bits : Nat) : Width := ⟨s!"u{bits}", 0, Int.ofNat (twoTo bits) - 1⟩

def signed (bits : Nat) : Width := ⟨s!"i{bits}", -Int.ofNat (twoTo (bits - 1)), Int.ofNat (twoTo (bits - 1)) - 1⟩

def contains (w : Width) (n : Int) : Bool := w.low ≤ n && n ≤ w.high

end Width

inductive Shape
  | unit
  /-- Any value. -/
  | any
  | bool
  | text
  | float
  | int (width : Width)
  | option (s : Shape)
  | list (s : Shape)
  | pair (first second : Shape)
  /-- Values under text keys. -/
  | map (values : Shape)
  /-- One of some names. -/
  | choice (names : List String)
  /-- Named fields, each with the value it takes if absent; a closed record has no others. -/
  | record (name : String) (closed : Bool) (fields : List (String × Option Json × Shape))

namespace Shape

/-- What a message says was expected. -/
def expected : Shape → String
  | unit => "unit"
  | any => "any valid JSON value"
  | bool => "a boolean"
  | text => "a string"
  | float => "f64"
  | int width => width.name
  | option _ => "option"
  | list _ => "a sequence"
  | pair .. => "a tuple of size 2"
  | map _ => "a map"
  | choice _ => "variant identifier"
  | record name .. => "struct " ++ name

/-- What a message says of a record that is given as a list. -/
def elementCount (name : String) (fields : Nat) : String :=
  s!"struct {name} with {fields} element" ++ (if fields = 1 then "" else "s")

/-- What a field of the shape is when nothing bears its name, even if it declares no value. -/
def unnamed? : Shape → Option Json
  | option _ => some .null
  | _ => none

/-- A field to be read, in whatever format. -/
structure Field (reader : Type) where
  name : String
  /-- Its value where a list ends before it. -/
  absent : Option Json
  /-- Its value where nothing bears its name. -/
  unnamed : Option Json
  read : reader

def Field.ofShape {reader : Type} (name : String) (absent : Option Json) (s : Shape)
    (read : reader) : Field reader :=
  ⟨name, absent, absent.or s.unnamed?, read⟩

/-- The fields of a record in their order: what was read, else the value for an absent field. The
first that has neither is missing. -/
def complete {reader : Type} (read : List (String × Json)) :
    List (Field reader) → Except Mismatch (List (String × Json))
  | [] => .ok []
  | field :: rest =>
    match (read.lookup field.name).or field.unnamed with
    | none => .error (.missingField field.name)
    | some value => (complete read rest).map ((field.name, value) :: ·)

/-- A whole number read into a width. -/
def fitInt (width : Width) : Json.Number → Except Mismatch Json
  | .int n =>
    if width.contains n then .ok (.int n) else .error (.invalidValue (.int n) width.name)
  | .float x => .error (.invalidType (.float x) width.name)

end Shape

end Conduit
