import Conduit.Toml.Quoted
import Conduit.Toml.Scalar

/-!
TOML documents: lines that open a table, define a value under a key, or do neither.
-/

namespace Conduit.Toml

def isBlankChar (c : Char) : Bool := c == ' ' || c == '\t'

def skipBlanks (cs : List Char) : List Char := cs.dropWhile isBlankChar

/-- Passes a comment if there is one. -/
def skipComment (cs : List Char) : List Char :=
  match cs with
  | '#' :: rest => rest.dropWhile isShown
  | cs => cs

/-- Passes blanks, comments and line ends, so many lines at most. -/
def skipLines : Nat → List Char → List Char
  | 0, cs => cs
  | bound + 1, cs =>
    let after := skipComment (skipBlanks cs)
    match lineEnd? after with
    | some rest => skipLines bound rest
    | none => after

def skipAll (cs : List Char) : List Char := skipLines cs.length cs

/-- Keys have fewer parts than this, and values nest less deep. -/
def depthLimit : Nat := 80

/-! ## Keys -/

def isBareChar (c : Char) : Bool := c.isAlphanum || c == '_' || c == '-'

/-- One part of a key. -/
def keyPart : Front String := fun cs =>
  match cs with
  | '"' :: _ | '\'' :: _ => quotedString true cs
  | cs =>
    let bare := cs.takeWhile isBareChar
    if bare.isEmpty then none else some (String.ofList bare, cs.drop bare.length)

/-- The parts of a key, with dots between them; so many at most. -/
def keyParts : Nat → Front (List String)
  | 0, _ => none
  | bound + 1, cs => do
    let (part, rest) ← keyPart (skipBlanks cs)
    match skipBlanks rest with
    | '.' :: more =>
      let (parts, rest) ← keyParts bound more
      return (part :: parts, rest)
    | rest => return ([part], rest)

def key : Front (List String) := keyParts (depthLimit - 1)

/-! ## Values -/

def isScalarChar (c : Char) : Bool :=
  c.isAlphanum || c == '+' || c == '-' || c == '_' || c == '.' || c == ':'

/-- The characters of a scalar: a time may follow its date after a blank. -/
def scalarChars (cs : List Char) : List Char :=
  let first := cs.takeWhile isScalarChar
  match cs.drop first.length with
  | ' ' :: c :: rest =>
    if isDate first && c.isDigit then first ++ ' ' :: (c :: rest).takeWhile isScalarChar else first
  | _ => first

def scalar : Front Toml := fun cs =>
  let chars := scalarChars cs
  (scalar? chars).map fun value => (value, cs.drop chars.length)

/-- The items of a list up to its bracket; so many at most. A comma may follow the last. -/
def listItems (item : Front Toml) : Nat → Front (List Toml)
  | 0, _ => none
  | bound + 1, cs =>
    match skipAll cs with
    | ']' :: rest => some ([], rest)
    | cs => do
      let (first, rest) ← item cs
      match skipAll rest with
      | ',' :: more =>
        let (others, rest) ← listItems item bound more
        return (first :: others, rest)
      | ']' :: rest => return ([first], rest)
      | _ => none

/-- A key and its value. -/
def pair (value : Front Toml) : Front (List String × Toml) := fun cs => do
  let (k, rest) ← key cs
  match skipBlanks rest with
  | '=' :: more =>
    let (v, rest) ← value (skipBlanks more)
    return ((k, v), rest)
  | _ => none

/-- The pairs of a table up to its brace, all on one line; so many at most. -/
def tablePairs (value : Front Toml) : Nat → Front (List (List String × Toml))
  | 0, _ => none
  | bound + 1, cs => do
    let (first, rest) ← pair value cs
    match skipBlanks rest with
    | ',' :: more =>
      let (others, rest) ← tablePairs value bound more
      return (first :: others, rest)
    | '\x7d' :: rest => return ([first], rest)
    | _ => none

def inlineTable (value : Front Toml) : Front Toml := fun cs =>
  match skipBlanks cs with
  | '\x7d' :: rest => some (.table .inline [], rest)
  | cs => do
    let (pairs, rest) ← tablePairs value cs.length cs
    return (← ofPairs pairs, rest)

/-- A value in which lists and tables may nest so deep. -/
def value : Nat → Front Toml
  | _, '"' :: cs => (quotedString false ('"' :: cs)).map fun (s, rest) => (.text s, rest)
  | _, '\'' :: cs => (quotedString false ('\'' :: cs)).map fun (s, rest) => (.text s, rest)
  | depth + 1, '[' :: cs => do
    let (values, rest) ← listItems (value depth) (cs.length + 1) cs
    return (.list values, rest)
  | depth + 1, '\x7b' :: cs => inlineTable (value depth) cs
  | _, cs => scalar cs

/-! ## Documents -/

/-- What a line says. -/
inductive Line
  | header (path : List String)
  | nextHeader (path : List String)
  | entry (key : List String) (value : Toml)

def headerKey (close : List Char) (cs : List Char) : Option (List String × List Char) := do
  let (path, rest) ← key cs
  let rest ← close.isPrefixOf? rest
  return (path, rest)

def line : Front Line := fun cs =>
  match cs with
  | '[' :: '[' :: rest => (headerKey [']', ']'] rest).map fun (path, rest) => (.nextHeader path, rest)
  | '[' :: rest => (headerKey [']'] rest).map fun (path, rest) => (.header path, rest)
  | cs => (pair (value (depthLimit - 1)) cs).map fun ((k, v), rest) => (.entry k v, rest)

/-- The end of a line: blanks, a comment, and a line end or the end of the text. -/
def endOfLine (cs : List Char) : Option (List Char) :=
  match skipComment (skipBlanks cs) with
  | [] => some []
  | cs => lineEnd? cs

/-- Every line that says something; so many at most. -/
def lines : Nat → List Char → Option (List Line)
  | 0, _ => none
  | bound + 1, cs =>
    match skipAll cs with
    | [] => some []
    | cs => do
      let (first, rest) ← line cs
      let rest ← endOfLine rest
      return first :: (← lines bound rest)

/-- A document so far: its tables, and the path of the table that entries go to. -/
structure Draft where
  entries : Entries
  path : List String

/-- Follows what a line says. -/
def Draft.add (d : Draft) : Line → Option Draft
  | .header path => do
    let (above, last) ← splitKey path
    let (_, entries) ← changeAt false (openTable last) above .header d.entries
    return ⟨entries, path⟩
  | .nextHeader path => do
    let (above, last) ← splitKey path
    let (_, entries) ← changeAt false (openNext last) above .header d.entries
    return ⟨entries, path⟩
  | .entry k v => do
    let (_, entries) ← changeAt false (define k v) d.path .header d.entries
    return { d with entries }

/-- A document without its byte order mark. -/
def withoutMark (cs : List Char) : List Char :=
  match cs with
  | '\uFEFF' :: rest => rest
  | cs => cs

/-- The table that a document makes, if it is well formed. -/
def parse? (s : String) : Option Toml := do
  let cs := withoutMark s.toList
  let said ← lines (cs.length + 1) cs
  let d ← said.foldlM Draft.add ⟨[], []⟩
  return .table .header d.entries

end Conduit.Toml
