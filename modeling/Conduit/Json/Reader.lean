import Conduit.Json.Numeral
import Conduit.Json.Literal

/-!
Reading JSON documents: lists and objects item by item, any value, and values passed unread.
-/

namespace Conduit.Json

/-- Lists and objects may nest one less than this deep. -/
def depthLimit : Nat := 128

/-- Letters that have to follow. -/
def letters : Bytes → Cursor → Except Error Cursor
  | [], c => .ok c
  | b :: more, c =>
    match c.rest with
    | [] => c.fail .endInValue
    | d :: _ => if d = b then letters more c.next else c.next.fail .expectedIdent

def wordNull : Bytes := [0x75, 0x6C, 0x6C]
def wordTrue : Bytes := [0x72, 0x75, 0x65]
def wordFalse : Bytes := [0x61, 0x6C, 0x73, 0x65]

/-! ## Lists and objects -/

/-- Whether another item follows in a list. -/
def nextItem (first : Bool) (c : Cursor) : Except Error (Bool × Cursor) :=
  let c := c.skipBlanks
  match c.peek? with
  | none => c.failPeek .endInList
  | some b =>
    if b = 0x5D then .ok (false, c)
    else if first then .ok (true, c)
    else if b = 0x2C then
      let c := c.next.skipBlanks
      match c.peek? with
      | some b => if b = 0x5D then c.failPeek .trailingComma else .ok (true, c)
      | none => c.failPeek .endInValue
    else c.failPeek .expectedListComma

/-- The key of the next member of an object, if there is one. -/
def nextKey (first : Bool) (c : Cursor) : Except Error (Option String × Cursor) :=
  let key (c : Cursor) : Except Error (Option String × Cursor) := do
    let (s, c) ← stringBody c.next
    return (some s, c)
  let c := c.skipBlanks
  match c.peek? with
  | none => c.failPeek .endInObject
  | some b =>
    if b = 0x7D then .ok (none, c)
    else if first then
      if b = 0x22 then key c else c.failPeek .keyNotString
    else if b = 0x2C then
      let c := c.next.skipBlanks
      match c.peek? with
      | some b =>
        if b = 0x22 then key c
        else if b = 0x7D then c.failPeek .trailingComma
        else c.failPeek .keyNotString
      | none => c.failPeek .endInValue
    else c.failPeek .expectedObjectComma

def colon (c : Cursor) : Except Error Cursor :=
  let c := c.skipBlanks
  match c.peek? with
  | some b => if b = 0x3A then .ok c.next else c.failPeek .expectedColon
  | none => c.failPeek .endInObject

def closeList (c : Cursor) : Except Error Cursor :=
  let c := c.skipBlanks
  match c.peek? with
  | some b =>
    if b = 0x5D then .ok c.next
    else if b = 0x2C then
      let c := c.next.skipBlanks
      if c.peek? == some 0x5D then c.failPeek .trailingComma else c.failPeek .trailingCharacters
    else c.failPeek .trailingCharacters
  | none => c.failPeek .endInList

def closeObject (c : Cursor) : Except Error Cursor :=
  let c := c.skipBlanks
  match c.peek? with
  | some b =>
    if b = 0x7D then .ok c.next
    else if b = 0x2C then c.failPeek .trailingComma
    else c.failPeek .trailingCharacters
  | none => c.failPeek .endInObject

/-- Where looking for the end of a list stops. -/
def settleList (c : Cursor) : Cursor :=
  let c := c.skipBlanks
  match c.peek? with
  | some b => if b = 0x5D then c.next else if b = 0x2C then c.next.skipBlanks else c
  | none => c

/-- Where looking for the end of an object stops. -/
def settleObject (c : Cursor) : Cursor :=
  let c := c.skipBlanks
  if c.peek? == some 0x7D then c.next else c

/-- Every item of a list, up to its bracket. An item takes at least a byte, which bounds them. -/
def itemsFrom {α : Type} (item : Reader α) (bound : Nat) (read : List α) : Reader (List α) :=
  fun c => do
    let (more, c) ← nextItem read.isEmpty c
    if !more then return (read.reverse, c)
    match bound with
    | 0 => return (read.reverse, c)
    | bound + 1 =>
      let (a, c) ← item c
      itemsFrom item bound (a :: read) c

def items {α : Type} (item : Reader α) : Reader (List α) := fun c =>
  itemsFrom item c.rest.length [] c

/-- Every member of an object, up to its brace. -/
def membersFrom {α : Type} (value : Reader α) (bound : Nat) (read : List (String × α)) :
    Reader (List (String × α)) := fun c => do
  match ← nextKey read.isEmpty c with
  | (none, c) => return (read.reverse, c)
  | (some key, c) =>
    match bound with
    | 0 => return (read.reverse, c)
    | bound + 1 =>
      let c ← colon c
      let (a, c) ← value c
      membersFrom value bound ((key, a) :: read) c

def members {α : Type} (value : Reader α) : Reader (List (String × α)) := fun c =>
  membersFrom value c.rest.length [] c

/-! ## Any value -/

/-- A value inside lists and objects that may nest `depth` deeper. -/
def value (depth : Nat) : Reader Json := fun c =>
  let c := c.skipBlanks
  match c.peek? with
  | none => c.failPeek .endInValue
  | some b =>
    if b = 0x6E then (letters wordNull c.next).map fun c => (.null, c)
    else if b = 0x74 then (letters wordTrue c.next).map fun c => (.bool true, c)
    else if b = 0x66 then (letters wordFalse c.next).map fun c => (.bool false, c)
    else if b = 0x2D || isDigit b then (number c).map fun (n, c) => (.num n, c)
    else if b = 0x22 then (stringBody c.next).map fun (s, c) => (.str s, c)
    else if b = 0x5B then
      match depth with
      | 0 => c.failPeek .recursionLimit
      | depth + 1 => do
        let (values, c) ← items (value depth) c.next
        let c ← closeList c
        return (.arr values, c)
    else if b = 0x7B then
      match depth with
      | 0 => c.failPeek .recursionLimit
      | depth + 1 => do
        let (values, c) ← members (value depth) c.next
        let c ← closeObject c
        return (object values, c)
    else c.failPeek .expectedValue

/-! ## Values passed unread -/

/-- An open bracket of a value that is passed. -/
inductive Open | list | object
  deriving DecidableEq

def passDigits (c : Cursor) : Cursor := c.skip (countDigits 0 c.rest)

def passExponent (c : Cursor) : Except Error Cursor :=
  let c := if c.peek? == some 0x2B || c.peek? == some 0x2D then c.next else c
  match c.peek? with
  | some b => if isDigit b then .ok (passDigits c) else c.next.fail .invalidNumber
  | none => c.fail .invalidNumber

def passFraction (c : Cursor) : Except Error Cursor :=
  if countDigits 0 c.rest = 0 then c.failPeek .invalidNumber
  else
    let c := passDigits c
    if isExponentLetter c.peek? then passExponent c.next else .ok c

def passNumber (c : Cursor) : Except Error Cursor := do
  let c ← match c.peek? with
    | none => c.fail .invalidNumber
    | some b =>
      if b = 48 then
        if (c.next.peek?.map isDigit).getD false then c.next.failPeek .invalidNumber
        else .ok c.next
      else if isDigit b then .ok (passDigits c)
      else c.next.fail .invalidNumber
  if c.peek? == some 0x2E then passFraction c.next
  else if isExponentLetter c.peek? then passExponent c.next
  else .ok c

/-- Passes the key and colon of a member. -/
def passKey (c : Cursor) : Except Error Cursor := do
  let c := c.skipBlanks
  let c ← match c.peek? with
    | some b => if b = 0x22 then skipString c.next.place c.next.rest else c.failPeek .keyNotString
    | none => c.failPeek .endInObject
  colon c

/-- What is read next of a value that is passed: a value, or what follows one or an open bracket. -/
inductive Pass
  | value
  | after (comma : Bool)

/-- Passes what the open brackets still hold. Each step but a look inside a bracket reads a byte. -/
def passFrom (bound : Nat) (opened : List Open) (step : Pass) (c : Cursor) : Except Error Cursor :=
  match bound with
  | 0 => .ok c
  | bound + 1 =>
    let c := c.skipBlanks
    match step with
    | .value =>
      match c.peek? with
      | none => c.failPeek .endInValue
      | some b => do
        if b = 0x5B then passFrom bound (.list :: opened) (.after false) c.next
        else if b = 0x7B then passFrom bound (.object :: opened) (.after false) c.next
        else
          let c ←
            if b = 0x6E then letters wordNull c.next
            else if b = 0x74 then letters wordTrue c.next
            else if b = 0x66 then letters wordFalse c.next
            else if b = 0x2D then passNumber c.next
            else if isDigit b then passNumber c
            else if b = 0x22 then skipString c.next.place c.next.rest
            else c.failPeek .expectedValue
          passFrom bound opened (.after true) c
    | .after comma =>
      match opened with
      | [] => .ok c
      | top :: below =>
        let inside (c : Cursor) : Except Error Cursor := do
          let c ← if top = .object then passKey c else .ok c
          passFrom bound opened .value c
        match c.peek? with
        | none => c.failPeek (if top = .list then .endInList else .endInObject)
        | some b =>
          if comma && b = 0x2C then inside c.next
          else if (top = .list ∧ b = 0x5D) ∨ (top = .object ∧ b = 0x7D) then
            passFrom bound below (.after true) c.next
          else if comma then
            c.failPeek (if top = .list then .expectedListComma else .expectedObjectComma)
          else inside c

def passValue (c : Cursor) : Except Error Cursor :=
  passFrom (2 * c.rest.length + 2) [] .value c

/-! ## Documents -/

/-- Nothing but blanks may follow a document. -/
def document {α : Type} (read : Reader α) (bs : Bytes) : Except Error α := do
  let (a, c) ← read (.ofBytes bs)
  let c := c.skipBlanks
  if c.rest.isEmpty then return a else c.failPeek .trailingCharacters

def parse (bs : Bytes) : Except Error Json := document (value (depthLimit - 1)) bs

end Conduit.Json
