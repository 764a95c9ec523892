import Conduit.Power

/-!
JSON values. Objects are kept with their keys in order and each key once.
-/

namespace Conduit

namespace Json

/-- A number is whole or a double; a whole one fits 64 bits, with or without a sign. -/
inductive Number
  | int (n : Int)
  | float (x : Float)
  deriving Inhabited

end Json

inductive Json
  | null
  | bool (b : Bool)
  | num (n : Json.Number)
  | str (s : String)
  | arr (items : List Json)
  | obj (members : List (String × Json))
  deriving Inhabited

namespace Json

/-- Puts a member in its place among ordered members; the last of two with one key stays. -/
def putMember {α : Type} (key : String) (value : α) : List (String × α) → List (String × α)
  | [] => [(key, value)]
  | (k, v) :: rest =>
    if key = k then (key, value) :: rest
    else if key < k then (key, value) :: (k, v) :: rest
    else (k, v) :: putMember key value rest

/-- Members in the order of their keys, the last of several with one key. -/
def orderMembers {α : Type} (members : List (String × α)) : List (String × α) :=
  members.foldl (fun done (key, value) => putMember key value done) []

def object (members : List (String × Json)) : Json := .obj (orderMembers members)

def int (n : Int) : Json := .num (.int n)

def nat (n : Nat) : Json := .num (.int n)

def float (x : Float) : Json := .num (.float x)

def ofOption {α : Type} (f : α → Json) : Option α → Json
  | none => .null
  | some a => f a

def strings (items : List String) : Json := .arr (items.map .str)

/-- The member under a key of an object. -/
def get? (key : String) : Json → Option Json
  | .obj members => members.lookup key
  | _ => none

def isObject : Json → Bool
  | .obj _ => true
  | _ => false

def isNull : Json → Bool
  | .null => true
  | _ => false

def str? : Json → Option String
  | .str s => some s
  | _ => none

def bool? : Json → Option Bool
  | .bool b => some b
  | _ => none

def int? : Json → Option Int
  | .num (.int n) => some n
  | _ => none

def float? : Json → Option Float
  | .num (.float x) => some x
  | .num (.int n) => some (Float.ofInt n)
  | _ => none

/-- A whole number in the range of signed 64-bit words. -/
def int64? (j : Json) : Option Int := do
  let n ← j.int?
  if isInt64 n then some n else none

end Json

end Conduit
