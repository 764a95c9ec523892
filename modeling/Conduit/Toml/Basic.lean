import Conduit.Json.Basic

/-!
TOML values, and tables that grow as a document is read. Each table knows how it came to be, which
decides what may still be added to it.
-/

namespace Conduit

namespace Toml

/-- How a table came to be. -/
inductive Origin
  /-- Written as a value; it takes no more entries. -/
  | inline
  /-- Named by a header of its own, or the whole document. -/
  | header
  /-- Named on the way to another header. -/
  | implied
  /-- Named by a key with dots. -/
  | dotted
  deriving DecidableEq, Repr, Inhabited

end Toml

inductive Toml
  | bool (b : Bool)
  | int (n : Int)
  | float (x : Float)
  | text (s : String)
  /-- A date, a time or both, as written. -/
  | moment (s : String)
  | list (items : List Toml)
  | table (origin : Toml.Origin) (entries : List (String × Toml))
  /-- Tables under one header written several times. -/
  | tables (items : List Toml)
  deriving Inhabited

namespace Toml

mutual

/-- The JSON value that says the same. -/
def toJson : Toml → Json
  | .bool b => .bool b
  | .int n => .int n
  | .float x => .float x
  | .text s | .moment s => .str s
  | .list items | .tables items => .arr (itemsToJson items)
  | .table _ entries => .object (entriesToJson entries)

def itemsToJson : List Toml → List Json
  | [] => []
  | item :: rest => toJson item :: itemsToJson rest

def entriesToJson : List (String × Toml) → List (String × Json)
  | [] => []
  | (key, value) :: rest => (key, toJson value) :: entriesToJson rest

end

abbrev Entries := List (String × Toml)

/-- Puts a value under a key, in the place of one that is there. -/
def putEntry (key : String) (value : Toml) : Entries → Entries
  | [] => [(key, value)]
  | (k, v) :: rest => if k = key then (key, value) :: rest else (k, v) :: putEntry key value rest

/-- A change to a table; there is none if the table may not be changed so. -/
abbrev Change := Origin → Entries → Option (Origin × Entries)

/-- Makes a change to the table at the end of a path. Tables on the way are created if they are
missing; of tables under one header the last is meant. By a key with dots no table can be entered
that has a header. -/
def changeAt (byDots : Bool) (change : Change) : List String → Change
  | [], origin, entries => change origin entries
  | key :: path, origin, entries => do
    let enter (o : Origin) (es : Entries) : Option Toml := do
      let (o, es) ← changeAt byDots change path o es
      return .table o es
    let child ← match entries.lookup key with
      | none => enter (if byDots then .dotted else .implied) []
      | some (.table .inline _) => none
      | some (.table .header es) => if byDots then none else enter .header es
      | some (.table o es) => enter o es
      | some (.tables items) =>
        match items.getLast? with
        | some (.table o es) =>
          if byDots && o = .header then none
          else (enter o es).map fun last => .tables (items.dropLast ++ [last])
        | _ => none
      | some _ => none
    return (origin, putEntry key child entries)

/-- Adds a new entry. A table that dots led to has to be one that dots created. -/
def addEntry (byDots : Bool) (key : String) (value : Toml) : Change := fun origin entries =>
  if (byDots && origin ≠ .dotted) || (entries.lookup key).isSome then none
  else some (origin, entries ++ [(key, value)])

/-- Opens the table of a header: a new one, or one that was only implied. -/
def openTable (key : String) : Change := fun origin entries =>
  match entries.lookup key with
  | none => some (origin, entries ++ [(key, .table .header [])])
  | some (.table .implied es) =>
    some (origin, entries.filter (·.1 ≠ key) ++ [(key, .table .header es)])
  | some _ => none

/-- Opens one more table under a header that may be written several times. -/
def openNext (key : String) : Change := fun origin entries =>
  match entries.lookup key with
  | none => some (origin, entries ++ [(key, .tables [.table .header []])])
  | some (.tables items) =>
    some (origin, putEntry key (.tables (items ++ [.table .header []])) entries)
  | some _ => none

/-- The path to a key with dots, and its last part. -/
def splitKey (key : List String) : Option (List String × String) :=
  key.getLast?.map fun last => (key.dropLast, last)

/-- Adds a value under a key that may have dots. -/
def define (key : List String) (value : Toml) : Change := fun origin entries => do
  let (path, last) ← splitKey key
  changeAt true (addEntry (!path.isEmpty) last value) path origin entries

/-- The table that pairs between braces make. -/
def ofPairs (pairs : List (List String × Toml)) : Option Toml := do
  let (_, entries) ← pairs.foldlM (fun (origin, entries) (key, value) =>
    define key value origin entries) (Origin.header, [])
  return .table .inline entries

end Toml

end Conduit
