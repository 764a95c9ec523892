import Conduit.Shape.Basic
import Conduit.Json.Reader

/-!
Reading JSON text into a shape, in one pass over the document: the first thing wrong is reported,
whether it is the text or what it says. Records may be written as objects or as lists.
-/

namespace Conduit.Shape

open Json (Reader Cursor Error)

/-- Refuses a value of the wrong kind, after reading it if it is a scalar. -/
def wrongKind {α : Type} (expected : String) (c : Cursor) : Except Error α := do
  let refuse (found : Found) (c : Cursor) : Except Error α :=
    c.fail (.mismatch (.invalidType found expected))
  match c.peek? with
  | none => c.failPeek .expectedValue
  | some b =>
    if b = 0x6E then refuse .unit (← Json.letters Json.wordNull c.next)
    else if b = 0x74 then refuse (.bool true) (← Json.letters Json.wordTrue c.next)
    else if b = 0x66 then refuse (.bool false) (← Json.letters Json.wordFalse c.next)
    else if b = 0x2D || Json.isDigit b then
      match ← Json.number c with
      | (.int n, c) => refuse (.int n) c
      | (.float x, c) => refuse (.float x) c
    else if b = 0x22 then
      let (s, c) ← Json.stringBody c.next
      refuse (.text s) c
    else if b = 0x5B then refuse .sequence c
    else if b = 0x7B then refuse .map c
    else c.failPeek .expectedValue

/-- Looks at the byte a value starts with. -/
def starting {α : Type} (read : UInt8 → Reader α) : Reader α := fun c =>
  let c := c.skipBlanks
  match c.peek? with
  | none => c.failPeek .endInValue
  | some b => read b c

def readUnit : Reader Json := starting fun b c =>
  if b = 0x6E then (Json.letters Json.wordNull c.next).map fun c => (.null, c)
  else wrongKind "unit" c

def readBool : Reader Json := starting fun b c =>
  if b = 0x74 then (Json.letters Json.wordTrue c.next).map fun c => (.bool true, c)
  else if b = 0x66 then (Json.letters Json.wordFalse c.next).map fun c => (.bool false, c)
  else wrongKind "a boolean" c

def readText (expected : String) : Reader String := starting fun b c =>
  if b = 0x22 then Json.stringBody c.next else wrongKind expected c

def readNumber (expected : String) (fit : Json.Number → Except Mismatch Json) : Reader Json :=
  starting fun b c =>
    if b = 0x2D || Json.isDigit b then do
      let (n, c) ← Json.number c
      match fit n with
      | .ok value => return (value, c)
      | .error m => c.fail (.mismatch m)
    else wrongKind expected c

def fitFloat : Json.Number → Except Mismatch Json
  | .int n => .ok (.float (Float.ofInt n))
  | .float x => .ok (.float x)

def readOption (read : Reader Json) : Reader Json := fun c =>
  let c := c.skipBlanks
  if c.peek? == some 0x6E then (Json.letters Json.wordNull c.next).map fun c => (.null, c)
  else read c

def readName (names : List String) : Reader String := fun c => do
  let (name, c) ← readText "variant identifier" c
  if names.contains name then return (name, c)
  else c.fail (.mismatch (.unknownVariant name names))

/-- A name stands alone, or as the only key of an object with the value `null`. -/
def readChoice (names : List String) (depth : Nat) : Reader Json := starting fun b c =>
  if b = 0x22 then (readName names c).map fun (name, c) => (.str name, c)
  else if b = 0x7B then
    if depth = 0 then c.failPeek .recursionLimit
    else do
      let (name, c) ← readName names c.next
      let c ← Json.colon c
      let (_, c) ← readUnit c
      let c := c.skipBlanks
      match c.peek? with
      | some b => if b = 0x7D then return (.str name, c.next) else c.fail .expectedValue
      | none => c.fail .endInObject
  else c.failPeek .expectedValue

/-! ## Lists and objects -/

/-- A list as a whole, once its items are judged. -/
def finishList (judged : Except Mismatch Json) (c : Cursor) : Except Error (Json × Cursor) :=
  match judged with
  | .ok value => (Json.closeList c).map fun c => (value, c)
  | .error m => (Json.settleList c).fail (.mismatch m)

/-- An object as a whole, once its members are judged. -/
def finishObject (judged : Except Mismatch Json) (c : Cursor) : Except Error (Json × Cursor) :=
  match judged with
  | .ok value => (Json.closeObject c).map fun c => (value, c)
  | .error m => (Json.settleObject c).fail (.mismatch m)

/-- A value inside brackets: one level of nesting is spent. -/
def nested (open_ : UInt8) (expected : String) (read : Nat → Reader Json) (depth : Nat) :
    Reader Json := starting fun b c =>
  if b = open_ then
    match depth with
    | 0 => c.failPeek .recursionLimit
    | depth + 1 => read depth c.next
  else wrongKind expected c

def readList (item : Nat → Reader Json) : Nat → Reader Json :=
  nested 0x5B "a sequence" fun depth c => do
    let (values, c) ← Json.items (item depth) c
    finishList (.ok (.arr values)) c

def readMap (value : Nat → Reader Json) : Nat → Reader Json :=
  nested 0x7B "a map" fun depth c => do
    let (values, c) ← Json.members (value depth) c
    finishObject (.ok (.object values)) c

def readPair (first second : Nat → Reader Json) : Nat → Reader Json :=
  nested 0x5B "a tuple of size 2" fun depth c => do
    let (more, c) ← Json.nextItem true c
    if !more then return ← finishList (.error (.invalidLength 0 "a tuple of size 2")) c
    let (a, c) ← first depth c
    let (more, c) ← Json.nextItem false c
    if !more then return ← finishList (.error (.invalidLength 1 "a tuple of size 2")) c
    let (b, c) ← second depth c
    finishList (.ok (.arr [a, b])) c

/-! ## Records -/

abbrev JsonField := Field (Nat → Reader Json)

/-- The members of a record up to its brace, or the first that has no place in it. A member takes
at least a byte, which bounds them. -/
def recordMembers (closed : Bool) (fields : List JsonField) (depth bound : Nat) (first : Bool)
    (read : List (String × Json)) :
    Cursor → Except Error (Except Mismatch (List (String × Json)) × Cursor) := fun c => do
  match ← Json.nextKey first c with
  | (none, c) => return (.ok read, c)
  | (some key, c) =>
    match bound with
    | 0 => return (.ok read, c)
    | bound + 1 =>
      match fields.find? (·.name = key) with
      | some field =>
        if (read.lookup key).isSome then return (.error (.duplicateField key), c)
        let c ← Json.colon c
        let (value, c) ← field.read depth c
        recordMembers closed fields depth bound false ((key, value) :: read) c
      | none =>
        if closed then return (.error (.unknownField key (fields.map (·.name))), c)
        let c ← Json.colon c
        let c ← Json.passValue c
        recordMembers closed fields depth bound false read c

/-- The fields of a record written as a list, by position. -/
def recordItems (whole : String) (depth : Nat) (read : List (String × Json)) :
    List JsonField → Cursor → Except Error (Except Mismatch (List (String × Json)) × Cursor)
  | [], c => .ok (.ok read, c)
  | field :: rest, c => do
    let (more, c) ← Json.nextItem read.isEmpty c
    if more then
      let (value, c) ← field.read depth c
      recordItems whole depth ((field.name, value) :: read) rest c
    else
      match field.absent with
      | some value => recordItems whole depth ((field.name, value) :: read) rest c
      | none => return (.error (.invalidLength read.length whole), c)

def readRecord (name : String) (closed : Bool) (fields : List JsonField) (depth : Nat) :
    Reader Json := starting fun b c =>
  if b = 0x5B || b = 0x7B then
    match depth with
    | 0 => c.failPeek .recursionLimit
    | depth + 1 => do
      if b = 0x5B then
        let (judged, c) ← recordItems (elementCount name fields.length) depth [] fields c.next
        finishList (judged.map .object) c
      else
        let (judged, c) ← recordMembers closed fields depth c.rest.length true [] c.next
        finishObject (judged.bind (complete · fields) |>.map .object) c
  else wrongKind ("struct " ++ name) c

mutual

/-- Reads a value of the shape where lists and objects may nest `depth` deep. -/
def readJson : Shape → Nat → Reader Json
  | unit => fun _ => readUnit
  | any => Json.value
  | bool => fun _ => readBool
  | text => fun _ c => (readText "a string" c).map fun (s, c) => (.str s, c)
  | float => fun _ => readNumber "f64" fitFloat
  | int width => fun _ => readNumber width.name (fitInt width)
  | option s => fun depth => readOption (readJson s depth)
  | list s => readList (readJson s)
  | pair a b => readPair (readJson a) (readJson b)
  | map s => readMap (readJson s)
  | choice names => readChoice names
  | record name closed fields => readRecord name closed (jsonFields fields)

def jsonFields : List (String × Option Json × Shape) → List JsonField
  | [] => []
  | (name, absent, s) :: rest => .ofShape name absent s (readJson s) :: jsonFields rest

end

/-- Reads a whole document of the shape. -/
def ofJson (s : Shape) (bs : Bytes) : Except Error Json :=
  Json.document (s.readJson (Json.depthLimit - 1)) bs

end Conduit.Shape
