import Conduit.Utf8
import Conduit.Mismatch

/-!
Reading JSON from bytes: the place reached, and what a document can be refused for.
-/

namespace Conduit.Json

/-- A position in a document: its line from one, and the bytes read on that line. -/
structure Place where
  line : Nat
  column : Nat
  deriving DecidableEq, Repr

def Place.start : Place := ⟨1, 0⟩

def Place.after (p : Place) (b : UInt8) : Place :=
  if b = 0x0A then ⟨p.line + 1, 0⟩ else ⟨p.line, p.column + 1⟩

/-- What is left to read, and where it starts. -/
structure Cursor where
  rest : Bytes
  place : Place

namespace Cursor

def ofBytes (bs : Bytes) : Cursor := ⟨bs, .start⟩

def peek? (c : Cursor) : Option UInt8 := c.rest.head?

/-- The cursor one byte on; at the end it stays. -/
def next (c : Cursor) : Cursor :=
  match c.rest with
  | [] => c
  | b :: rest => ⟨rest, c.place.after b⟩

def skip (c : Cursor) : Nat → Cursor
  | 0 => c
  | n + 1 => c.next.skip n

def skipBlanksFrom (place : Place) : Bytes → Cursor
  | [] => ⟨[], place⟩
  | b :: rest =>
    if b = 0x20 || b = 0x0A || b = 0x09 || b = 0x0D then skipBlanksFrom (place.after b) rest
    else ⟨b :: rest, place⟩

def skipBlanks (c : Cursor) : Cursor := skipBlanksFrom c.place c.rest

/-- The place of the byte that comes next: one past it, or the end. -/
def peekPlace (c : Cursor) : Place := c.next.place

end Cursor

inductive Fault
  | endInList | endInObject | endInString | endInValue
  | expectedColon | expectedListComma | expectedObjectComma | expectedIdent | expectedValue
  | invalidEscape | invalidNumber | numberOutOfRange | invalidCodePoint | controlCharacter
  | keyNotString | loneSurrogate | endOfHexEscape | trailingComma | trailingCharacters
  | recursionLimit
  | mismatch (m : Mismatch)

/-- JSON calls the absence of a value `null` and writes doubles as it does in documents. -/
def foundStyle : FoundStyle := ⟨"null", Decimal.Style.json.renderFloat⟩

def Fault.message : Fault → String
  | endInList => "EOF while parsing a list"
  | endInObject => "EOF while parsing an object"
  | endInString => "EOF while parsing a string"
  | endInValue => "EOF while parsing a value"
  | expectedColon => "expected " ++ Text.quoted ":"
  | expectedListComma => "expected " ++ Text.quoted "," ++ " or " ++ Text.quoted "]"
  | expectedObjectComma => "expected " ++ Text.quoted "," ++ " or " ++ Text.quoted "\x7d"
  | expectedIdent => "expected ident"
  | expectedValue => "expected value"
  | invalidEscape => "invalid escape"
  | invalidNumber => "invalid number"
  | numberOutOfRange => "number out of range"
  | invalidCodePoint => "invalid unicode code point"
  | controlCharacter => "control character (\\u0000-\\u001F) found while parsing a string"
  | keyNotString => "key must be a string"
  | loneSurrogate => "lone leading surrogate in hex escape"
  | endOfHexEscape => "unexpected end of hex escape"
  | trailingComma => "trailing comma"
  | trailingCharacters => "trailing characters"
  | recursionLimit => "recursion limit exceeded"
  | mismatch m => m.message foundStyle

structure Error where
  fault : Fault
  place : Place

def Error.message (e : Error) : String :=
  s!"{e.fault.message} at line {e.place.line} column {e.place.column}"

/-- A step of reading: what was read and where reading goes on. -/
abbrev Reader (α : Type) := Cursor → Except Error (α × Cursor)

namespace Cursor

/-- Refuses at the place reached. -/
def fail {α : Type} (c : Cursor) (fault : Fault) : Except Error α := .error ⟨fault, c.place⟩

/-- Refuses at the byte that comes next. -/
def failPeek {α : Type} (c : Cursor) (fault : Fault) : Except Error α :=
  .error ⟨fault, c.peekPlace⟩

end Cursor

end Conduit.Json
