import Conduit.Hex
import Conduit.Text

/-!
128-bit identifiers as thirty-two hexadecimal digits. They are written with hyphens and in lower
case, and read in four forms and any case.
-/

namespace Conduit

structure Uuid where
  digits : List (Fin 16)
  length_digits : digits.length = 32 := by decide
  deriving DecidableEq

namespace Uuid

def digit? (c : Char) : Option (Fin 16) := (Hex.value? c.toNat).map (Fin.ofNat 16)

def ofDigits? (cs : List Char) : Option Uuid :=
  match cs.mapM digit? with
  | none => none
  | some digits => if h : digits.length = 32 then some ⟨digits, h⟩ else none

/-- Groups of 8, 4, 4, 4 and 12 digits with hyphens between them. -/
def ofHyphenated? (cs : List Char) : Option Uuid :=
  match cs.splitOn '-' with
  | [a, b, c, d, e] =>
    if a.length = 8 ∧ b.length = 4 ∧ c.length = 4 ∧ d.length = 4 ∧ e.length = 12 then
      ofDigits? (a ++ b ++ c ++ d ++ e)
    else none
  | _ => none

/-- Digits alone, hyphenated, in braces, or after `urn:uuid:`. -/
def parse? (s : String) : Option Uuid :=
  let cs := s.toList
  if cs.length = 32 then ofDigits? cs
  else if cs.length = 36 then ofHyphenated? cs
  else if cs.length = 38 ∧ cs.head? = some '\x7b' ∧ cs.getLast? = some '\x7d' then
    ofHyphenated? (cs.drop 1).dropLast
  else if cs.length = 45 then
    match "urn:uuid:".toList.isPrefixOf? cs with
    | some rest => ofHyphenated? rest
    | none => none
  else none

def text (u : Uuid) : String :=
  let cs := u.digits.map fun d => Hex.digit d.val
  String.ofList (cs.take 8 ++ '-' :: ((cs.drop 8).take 4 ++ '-' :: ((cs.drop 12).take 4
    ++ '-' :: ((cs.drop 16).take 4 ++ '-' :: cs.drop 20))))

/-- The version number: the thirteenth digit. -/
def version (u : Uuid) : Nat := (u.digits[12]?.map (·.val)).getD 0

end Uuid

/-- The id of a request. -/
abbrev RequestId := Uuid

/-- Reads an id, blanks around it aside. -/
def RequestId.parse? (s : String) : Option RequestId := Uuid.parse? (Text.trim s)

end Conduit
