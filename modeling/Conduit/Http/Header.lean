import Conduit.Http.Method
import Conduit.Text
import Conduit.Utf8

/-!
Header lines: names in lower case, values as bytes, several lines of one name kept in order.
-/

namespace Conduit

/-- The bytes of a value that show as they are: visible ASCII, blanks and tabs. -/
def isVisible (b : UInt8) : Bool := (0x20 ≤ b && b < 0x7F) || b = 0x09

namespace Header

def name? (s : String) : Option String :=
  if s ≠ "" ∧ s.toList.all isTokenChar then some (Text.lower s) else none

/-- Values hold no control characters but tabs. -/
def value? (bs : Bytes) : Option Bytes :=
  if bs.all fun b => (0x20 ≤ b && b != 0x7F) || b = 0x09 then some bs else none

/-- The text of a value, if all of it is visible. -/
def text? (value : Bytes) : Option String :=
  if value.all isVisible then
    some (String.ofList (value.map fun b => Char.ofNat b.toNat))
  else none

end Header

structure Headers where
  lines : List (String × Bytes)
  deriving DecidableEq, Repr, Inhabited

namespace Headers

def empty : Headers := ⟨[]⟩

/-- The values of every line of that name, in order. -/
def getAll (h : Headers) (name : String) : List Bytes :=
  (h.lines.filter (·.1 = name)).map (·.2)

/-- The value of the first line of that name. -/
def get? (h : Headers) (name : String) : Option Bytes := (h.getAll name).head?

/-- The first line of that name, if it is visible text. -/
def text? (h : Headers) (name : String) : Option String := (h.get? name).bind Header.text?

/-- Adds a line behind the others. -/
def append (h : Headers) (name : String) (value : Bytes) : Headers :=
  ⟨h.lines ++ [(name, value)]⟩

/-- Puts one line in place of all lines of that name. -/
def insert (h : Headers) (name : String) (value : Bytes) : Headers :=
  ⟨h.lines.filter (·.1 ≠ name) ++ [(name, value)]⟩

/-- Puts a line of text if it is a legal value. -/
def insertText (h : Headers) (name text : String) : Headers :=
  match Header.value? (Utf8.encode text) with
  | some value => h.insert name value
  | none => h

end Headers

end Conduit
