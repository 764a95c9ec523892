import Conduit.Config.Environment
import Conduit.Text.Alphanumeric

/-!
Files of variables: lines `NAME=value`, where values may be quoted over several lines and refer to
other variables. A variable that has a value keeps it.
-/

namespace Conduit.Dotenv

inductive Fault
  /-- A line that does not read, and a place in it. -/
  | badLine (line : String) (place : Nat)
  | notText
  deriving DecidableEq, Repr

def Fault.message : Fault → String
  | badLine line place => s!"Error parsing line: \x27{line}\x27, error at line index: {place}"
  | notText => "stream did not contain valid UTF-8"

/-! ## Logical lines -/

/-- Where a line stands as far as quotation goes. -/
inductive Quoting
  | plain | afterBlank | escape | strong | strongEscape | weak | weakEscape
  deriving DecidableEq, Repr

/-- What a character does outside of quotation. -/
def openQuote (c : Char) : Quoting :=
  if c = '\\' then .escape
  else if c = '"' then .weak
  else if c = '\'' then .strong
  else .plain

def Quoting.after (q : Quoting) (c : Char) : Quoting :=
  match q with
  | .plain =>
    if Text.isBlank c && c != '\n' && c != '\r' then .afterBlank else openQuote c
  | .afterBlank => openQuote c
  | .escape => .plain
  | .strong => if c = '\\' then .strongEscape else if c = '\'' then .plain else .strong
  | .strongEscape => .strong
  | .weak => if c = '\\' then .weakEscape else if c = '"' then .plain else .weak
  | .weakEscape => .weak

/-- How a line ends: in a state of quotation, or in a comment that starts after these characters,
which are given backwards. -/
inductive LineEnd
  | state (q : Quoting)
  | comment (before : List Char)

def scan (q : Quoting) (read : List Char) : List Char → LineEnd
  | [] => .state q
  | c :: rest =>
    if q = .afterBlank ∧ c = '#' then .comment read else scan (q.after c) (c :: read) rest

def dropLineEnd (cs : List Char) : List Char :=
  match cs.reverse with
  | '\n' :: '\r' :: rest => rest.reverse
  | '\n' :: rest => rest.reverse
  | _ => cs

/-- The next line with the lines that its quotation runs over. Lines that start as comments are
empty. -/
def logicalLine (q : Quoting) (read : List Char) :
    List (Option (List Char)) → Except Fault (List Char × List (Option (List Char)))
  | [] => .error (.badLine (String.ofList read) (Utf8.encode (String.ofList read)).length)
  | none :: _ => .error .notText
  | some cs :: rest =>
    let whole := read ++ cs
    if (whole.dropWhile Text.isBlank).head? = some '#' then .ok ([], rest)
    else
      match scan q [] cs with
      | .comment before => .ok (read ++ before.reverse, rest)
      | .state .plain => .ok (dropLineEnd whole, rest)
      | .state q => logicalLine q whole rest

/-- The lines of a file, each with its end. -/
def rawLines (bs : Bytes) : List Bytes :=
  let pieces := bs.splitOn 0x0A
  let ended := pieces.dropLast.map (· ++ [0x0A])
  match pieces.getLast? with
  | some [] | none => ended
  | some last => ended ++ [last]

/-! ## Values -/

inductive Mode
  | plain
  | strong
  | escaped
  /-- In the name of a variable. -/
  | name
  /-- In the name of a variable between braces. -/
  | bracedName
  /-- After a blank that only a comment may follow. -/
  | ending
  deriving DecidableEq, Repr

/-- A value so far; texts are kept backwards. -/
structure Draft where
  mode : Mode
  /-- Between double marks. -/
  weak : Bool
  name : List Char
  out : List Char

namespace Draft

def push (d : Draft) (c : Char) : Draft := { d with out := c :: d.out }

/-- Puts the value of the variable that was named. -/
def substitute (env : Environment) (d : Draft) : Draft :=
  let value := (env.get? (String.ofList d.name.reverse)).getD ""
  { d with mode := .plain, name := [], out := value.toList.reverse ++ d.out }

def stepName (env : Environment) (c : Char) (d : Draft) : Draft :=
  if Text.isAlphanumeric c then { d with name := c :: d.name }
  else if c = '\x7b' ∧ d.name.isEmpty then { d with mode := .bracedName }
  else
    let d := d.substitute env
    if c = '$' then { d with mode := .name } else d.push c

def stepPlain (c : Char) (d : Draft) : Draft :=
  if c = '$' then { d with mode := .name }
  else if d.weak then
    if c = '"' then { d with weak := false }
    else if c = '\\' then { d with mode := .escaped }
    else d.push c
  else if c = '\'' then { d with mode := .strong }
  else if c = '"' then { d with weak := true }
  else if c = '\\' then { d with mode := .escaped }
  else if c = ' ' ∨ c = '\t' then { d with mode := .ending }
  else d.push c

def stepEscaped (c : Char) (d : Draft) : Option Draft :=
  let d := { d with mode := .plain }
  if c = 'n' then some (d.push '\n')
  else if "\\\x27\"$ ".toList.contains c then some (d.push c)
  else none

/-- Takes a character; there is no next draft where it may not stand. -/
def step (env : Environment) (c : Char) (d : Draft) : Option Draft :=
  match d.mode with
  | .ending => if c = ' ' ∨ c = '\t' then some d else none
  | .escaped => d.stepEscaped c
  | .strong => some (if c = '\'' then { d with mode := .plain } else d.push c)
  | .name => some (d.stepName env c)
  | .bracedName =>
    some (if c = '\x7d' then d.substitute env else { d with name := c :: d.name })
  | .plain => some (d.stepPlain c)

end Draft

/-- Takes characters up to a comment, counting them. -/
def readValue (env : Environment) (place : Nat) (d : Draft) : List Char → Except Nat Draft
  | [] => .ok d
  | c :: rest =>
    if d.mode = .ending ∧ c = '#' then .ok d
    else match d.step env c with
      | some d => readValue env (place + 1) d rest
      | none => .error place

def value (env : Environment) (cs : List Char) : Except Fault String :=
  let fail (place : Nat) : Except Fault String := .error (.badLine (String.ofList cs) place)
  match readValue env 0 ⟨.plain, false, [], []⟩ cs with
  | .error place => fail place
  | .ok d =>
    if d.mode = .bracedName ∨ d.mode = .strong ∨ d.weak then
      fail ((Utf8.encode (String.ofList cs)).length - 1)
    else .ok (String.ofList (d.substitute env).out.reverse)

/-! ## Lines -/

def isNameChar (c : Char) : Bool := c.isAlphanum || c == '_' || c == '.'

/-- What is left of a line, and the bytes read of it. -/
structure Rest where
  chars : List Char
  place : Nat

def skipBlanks (r : Rest) : Rest :=
  let blanks := r.chars.takeWhile Text.isBlank
  ⟨r.chars.drop blanks.length, r.place + (Utf8.encode (String.ofList blanks)).length⟩

def name? (r : Rest) : Option (String × Rest) :=
  match r.chars with
  | c :: _ =>
    if c.isAlpha || c == '_' then
      let name := r.chars.takeWhile isNameChar
      some (String.ofList name, ⟨r.chars.drop name.length, r.place + name.length⟩)
    else none
  | [] => none

def equals? (r : Rest) : Option Rest :=
  match r.chars with
  | '=' :: rest => some ⟨rest, r.place + 1⟩
  | _ => none

def isOver (r : Rest) : Bool := r.chars.isEmpty || r.chars.head? == some '#'

/-- The name of a line and what follows its equals sign; `export` may come first. -/
def nameAndRest (line : List Char) (r : Rest) : Except Fault (String × Rest) := do
  let orFail {α : Type} (place : Nat) : Option α → Except Fault α
    | some a => .ok a
    | none => .error (.badLine (String.ofList line) place)
  let (name, r) ← orFail r.place (name? r)
  let r := skipBlanks r
  match name, equals? r with
  | _, some rest => return (name, rest)
  | "export", none =>
    let (name, r) ← orFail r.place (name? r)
    let r := skipBlanks r
    return (name, ← orFail r.place (equals? r))
  | _, none => orFail r.place none

/-- The variable that a line defines, if it does. -/
def definition (env : Environment) (line : List Char) :
    Except Fault (Option (String × String)) := do
  let start := skipBlanks ⟨Text.dropEndWhile Text.isBlank line, 0⟩
  if isOver start then return none
  let (name, r) ← nameAndRest line start
  let r := skipBlanks r
  if isOver r then return some (name, "")
  return some (name, ← value env r.chars)

/-- Follows every line; as many as there are. -/
def follow (env : Environment) : Nat → List (Option (List Char)) → Except Fault Environment
  | 0, _ | _, [] => .ok env
  | bound + 1, lines => do
    let (line, rest) ← logicalLine .plain [] lines
    match ← definition env line with
    | some (name, value) => follow (env.setDefault name value) bound rest
    | none => follow env bound rest

def withoutMark : Bytes → Bytes
  | 0xEF :: 0xBB :: 0xBF :: rest => rest
  | bs => bs

/-- The variables with those that a file adds. -/
def load (env : Environment) (bs : Bytes) : Except Fault Environment :=
  let lines := (rawLines (withoutMark bs)).map fun line => (Utf8.decode? line).map String.toList
  follow env lines.length lines

end Conduit.Dotenv
