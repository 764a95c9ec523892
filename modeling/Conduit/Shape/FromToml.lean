import Conduit.Shape.Basic
import Conduit.Toml.Basic

/-!
Reading a TOML value into a shape, entry by entry in the order of the document. Records may be
written as tables or as lists.
-/

namespace Conduit.Shape

/-- A double as messages show it: positional and with a point if it is finite. -/
def shownFloat (x : Float) : String :=
  if x.isNaN then "NaN"
  else if x.isInf then (if x < 0 then "-inf" else "inf")
  else Decimal.Style.plain.renderFloat x

def tomlStyle : FoundStyle := ⟨"unit value", shownFloat⟩

/-- The key under which a date or time shows where a table is wanted. -/
def momentKey : String := "$__toml_private_datetime"

/-- What a TOML value is called. -/
def foundToml : Toml → Found
  | .bool b => .bool b
  | .int n => .int n
  | .float x => .float x
  | .text s => .text s
  | .moment _ => .map
  | .list _ => .sequence
  | .table .. => .map
  | .tables _ => .sequence

def itemsOf? : Toml → Option (List Toml)
  | .list items => some items
  | .tables items => some items
  | _ => none

def entriesOf? : Toml → Option Toml.Entries
  | .table _ entries => some entries
  | .moment s => some [(momentKey, .text s)]
  | _ => none

/-- A reader of TOML values. -/
abbrev TomlReader := Toml → Except Mismatch Json

def tomlMismatch (expected : String) : TomlReader := fun t =>
  .error (.invalidType (foundToml t) expected)

def scalarToml (expected : String) (read : Toml → Option (Except Mismatch Json)) : TomlReader :=
  fun t => (read t).getD (tomlMismatch expected t)

def tomlInt (width : Width) : TomlReader := scalarToml width.name fun
  | .int n => some (fitInt width (.int n))
  | _ => none

def tomlFloat : TomlReader := scalarToml "f64" fun
  | .int n => some (.ok (.float (Float.ofInt n)))
  | .float x => some (.ok (.float x))
  | _ => none

def tomlText : TomlReader := scalarToml "a string" fun
  | .text s => some (.ok (.str s))
  | _ => none

def tomlBool : TomlReader := scalarToml "a boolean" fun
  | .bool b => some (.ok (.bool b))
  | _ => none

def chooseName (names : List String) (name : String) : Except Mismatch Json :=
  if names.contains name then .ok (.str name) else .error (.unknownVariant name names)

/-- A name is text, or the only key of a table over something empty. -/
def tomlChoice (names : List String) : TomlReader
  | .text s => chooseName names s
  | .table _ [(name, inner)] => do
    let chosen ← chooseName names name
    match (itemsOf? inner).map List.isEmpty, (entriesOf? inner).map List.isEmpty with
    | some true, _ | _, some true => return chosen
    | _, _ => throw (.unreadable "expected empty table")
  | .table .. => .error (.unreadable "wanted exactly 1 element")
  | _ => .error (.unreadable "wanted string or table")

def tomlList (item : TomlReader) : TomlReader := fun t =>
  match itemsOf? t with
  | some items => (items.mapM item).map .arr
  | none => tomlMismatch "a sequence" t

def tomlPair (first second : TomlReader) : TomlReader := fun t =>
  match itemsOf? t with
  | some (a :: b :: _) => do return .arr [← first a, ← second b]
  | some items => .error (.invalidLength items.length "a tuple of size 2")
  | none => tomlMismatch "a tuple of size 2" t

def tomlMap (value : TomlReader) : TomlReader := fun t =>
  match entriesOf? t with
  | some entries => do
    return .object (← entries.mapM fun entry => do return (entry.1, ← value entry.2))
  | none => tomlMismatch "a map" t

abbrev TomlField := Field TomlReader

/-- The entries of a record's table in their order. -/
def recordEntries (closed : Bool) (fields : List TomlField) (read : List (String × Json)) :
    Toml.Entries → Except Mismatch (List (String × Json))
  | [] => .ok read
  | (key, value) :: rest =>
    match fields.find? (·.name = key) with
    | some field => do
      let json ← field.read value
      recordEntries closed fields ((key, json) :: read) rest
    | none =>
      if closed then .error (.unknownField key (fields.map (·.name)))
      else recordEntries closed fields read rest

/-- The fields of a record by position; items beyond them are passed. -/
def recordPositions (whole : String) (read : List (String × Json)) :
    List TomlField → List Toml → Except Mismatch (List (String × Json))
  | [], _ => .ok read
  | field :: fields, item :: items => do
    let json ← field.read item
    recordPositions whole ((field.name, json) :: read) fields items
  | field :: fields, [] =>
    match field.absent with
    | some value => recordPositions whole ((field.name, value) :: read) fields []
    | none => .error (.invalidLength read.length whole)

def tomlRecord (name : String) (closed : Bool) (fields : List TomlField) : TomlReader := fun t =>
  match itemsOf? t, entriesOf? t with
  | some items, _ =>
    (recordPositions (elementCount name fields.length) [] fields items).map .object
  | none, some entries =>
    ((recordEntries closed fields [] entries).bind (complete · fields)).map .object
  | none, none => tomlMismatch ("struct " ++ name) t

mutual

/-- Reads a value of the shape; nothing in TOML is a unit. -/
def ofToml : Shape → TomlReader
  | unit => tomlMismatch "unit"
  | any => fun t => .ok t.toJson
  | bool => tomlBool
  | text => tomlText
  | float => tomlFloat
  | int width => tomlInt width
  | option s => ofToml s
  | list s => tomlList (ofToml s)
  | pair a b => tomlPair (ofToml a) (ofToml b)
  | map s => tomlMap (ofToml s)
  | choice names => tomlChoice names
  | record name closed fields => tomlRecord name closed (tomlFields fields)

def tomlFields : List (String × Option Json × Shape) → List TomlField
  | [] => []
  | (name, absent, s) :: rest => .ofShape name absent s (ofToml s) :: tomlFields rest

end

end Conduit.Shape
