import Conduit.Text
import Conduit.Text.Unprintable
import Conduit.Decimal.Style

/-!
What can be wrong with a value that is read into a declared shape, whatever format it came in.
-/

namespace Conduit

/-- What stood where something else was expected. -/
inductive Found
  | unit
  | bool (b : Bool)
  | int (n : Int)
  | float (x : Float)
  | text (s : String)
  | sequence
  | map
  /-- Something that only the format has, by its own name. -/
  | other (name : String)

/-- How a format names what it found. -/
structure FoundStyle where
  unit : String
  float : Float → String

namespace Found

/-- A character between quotation marks, escaped if it does not print. -/
def quoteChar (c : Char) : List Char :=
  if c = '"' then ['\\', '"']
  else if c = '\\' then ['\\', '\\']
  else if c = '\t' then ['\\', 't']
  else if c = '\n' then ['\\', 'n']
  else if c = '\r' then ['\\', 'r']
  else if c.toNat = 0 then ['\\', '0']
  else if Text.isUnprintable c then
    ['\\', 'u', '\x7b'] ++ Nat.toDigits 16 c.toNat ++ ['\x7d']
  else [c]

def quoteText (s : String) : String :=
  String.ofList ('"' :: (s.toList.flatMap quoteChar ++ ['"']))

def describe (style : FoundStyle) : Found → String
  | unit => style.unit
  | bool b => "boolean " ++ Text.quoted (if b then "true" else "false")
  | int n => "integer " ++ Text.quoted (toString n)
  | float x => "floating point " ++ Text.quoted (style.float x)
  | text s => "string " ++ quoteText s
  | sequence => "sequence"
  | map => "map"
  | other name => name

end Found

inductive Mismatch
  | invalidType (found : Found) (expected : String)
  | invalidValue (found : Found) (expected : String)
  | invalidLength (length : Nat) (expected : String)
  | missingField (name : String)
  | duplicateField (name : String)
  | unknownField (name : String) (known : List String)
  | unknownVariant (name : String) (known : List String)
  /-- A scalar written as text that does not read. -/
  | unreadable (reason : String)

namespace Mismatch

/-- The names that would have been right. -/
def oneOf : List String → String
  | [a] => Text.quoted a
  | [a, b] => Text.quoted a ++ " or " ++ Text.quoted b
  | names => "one of " ++ Text.joinWith ", " (names.map Text.quoted)

def message (style : FoundStyle) : Mismatch → String
  | invalidType found expected => s!"invalid type: {found.describe style}, expected {expected}"
  | invalidValue found expected => s!"invalid value: {found.describe style}, expected {expected}"
  | invalidLength length expected => s!"invalid length {length}, expected {expected}"
  | missingField name => "missing field " ++ Text.quoted name
  | duplicateField name => "duplicate field " ++ Text.quoted name
  | unknownField name known =>
    if known.isEmpty then s!"unknown field {Text.quoted name}, there are no fields"
    else s!"unknown field {Text.quoted name}, expected {oneOf known}"
  | unknownVariant name known =>
    if known.isEmpty then s!"unknown variant {Text.quoted name}, there are no variants"
    else s!"unknown variant {Text.quoted name}, expected {oneOf known}"
  | unreadable reason => reason

end Mismatch

end Conduit
