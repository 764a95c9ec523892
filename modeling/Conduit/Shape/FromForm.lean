import Conduit.Shape.Basic
import Conduit.Form
import Conduit.Decimal.Reader

/-!
Reading the pairs of a form or query into a shape. Every value is text; scalars are read from it.
-/

namespace Conduit.Shape

/-- Forms hold text alone, so no other value is ever named. -/
def formStyle : FoundStyle := ⟨"unit value", Decimal.Style.plain.renderFloat⟩

def boolOfText (s : String) : Except Mismatch Json :=
  if s = "true" then .ok (.bool true)
  else if s = "false" then .ok (.bool false)
  else .error (.unreadable
    ("provided string was not " ++ Text.quoted "true" ++ " or " ++ Text.quoted "false"))

def floatOfText (s : String) : Except Mismatch Json :=
  match Decimal.readFloat s with
  | some x => .ok (.float x)
  | none => .error (.unreadable
      (if s.isEmpty then "cannot parse float from empty string" else "invalid float literal"))

def intOfText (width : Width) (s : String) : Except Mismatch Json :=
  match Decimal.readInt width.low width.high s with
  | .ok n => .ok (.int n)
  | .error fault => .error (.unreadable fault.message)

/-- Reads one value of a form. -/
def ofText : Shape → String → Except Mismatch Json
  | any, s | text, s => .ok (.str s)
  | bool, s => boolOfText s
  | float, s => floatOfText s
  | int width, s => intOfText width s
  | option inner, s => ofText inner s
  | choice names, s =>
    if names.contains s then .ok (.str s) else .error (.unknownVariant s names)
  | shape, s => .error (.invalidType (.text s) shape.expected)

/-- The fields of a record from pairs, in their order; others are passed unless it is closed. -/
def recordPairs (closed : Bool) (fields : List (String × Option Json × Shape))
    (read : List (String × Json)) :
    List (String × String) → Except Mismatch (List (String × Json))
  | [] => .ok read
  | (name, value) :: rest =>
    match fields.lookup name with
    | some (_, shape) => do
      if (read.lookup name).isSome then throw (.duplicateField name)
      let json ← shape.ofText value
      recordPairs closed fields ((name, json) :: read) rest
    | none =>
      if closed then .error (.unknownField name (fields.map (·.1)))
      else recordPairs closed fields read rest

def pairItem (shape : Shape) (p : String × String) : Except Mismatch Json :=
  match shape with
  | pair a b => do return .arr [← a.ofText p.1, ← b.ofText p.2]
  | any => .ok (.arr [.str p.1, .str p.2])
  | shape => .error (.invalidType .sequence shape.expected)

/-- Reads all pairs of a form. -/
def ofPairs (shape : Shape) (pairs : List (String × String)) : Except Mismatch Json :=
  match shape with
  | unit =>
    if pairs.isEmpty then .ok .null
    else .error (.invalidLength pairs.length "0 elements in map")
  | any => .ok (.object (pairs.map fun (n, v) => (n, .str v)))
  | map values => do
    return .object (← pairs.mapM fun (n, v) => do return (n, ← values.ofText v))
  | list item => do return .arr (← pairs.mapM (pairItem item))
  | record _ closed fields => do
    let read ← recordPairs closed fields [] pairs
    let known := fields.map fun (name, absent, s) => Field.ofShape name absent s ()
    return .object (← complete read known)
  | shape => .error (.invalidType .map shape.expected)

end Conduit.Shape
