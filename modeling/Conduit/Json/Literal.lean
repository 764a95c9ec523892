import Conduit.Hex
import Conduit.Json.Cursor

/-!
Strings in JSON text. An escape is read from the bytes alone: what it stands for and how many
bytes it takes, or the fault and the bytes read up to it.
-/

namespace Conduit.Json

def hexValue (b : UInt8) : Option Nat := Hex.value? b.toNat

/-- The four hexadecimal digits at the front; too few bytes are all read. -/
def hexUnit (bs : Bytes) : Except (Fault × Nat) Nat :=
  match bs with
  | a :: b :: c :: d :: _ =>
    match hexValue a, hexValue b, hexValue c, hexValue d with
    | some a, some b, some c, some d => .ok (((a * 16 + b) * 16 + c) * 16 + d)
    | _, _, _, _ => .error (.invalidEscape, 4)
  | _ => .error (.endInString, bs.length)

def isLeading (n : Nat) : Bool := 0xD800 ≤ n && n ≤ 0xDBFF

def isTrailing (n : Nat) : Bool := 0xDC00 ≤ n && n ≤ 0xDFFF

/-- Adds bytes read before to the count of a fault. -/
def readBefore {α : Type} (n : Nat) : Except (Fault × Nat) α → Except (Fault × Nat) α
  | .error (fault, m) => .error (fault, n + m)
  | .ok a => .ok a

/-- The character of a `\u` escape, after the `u`: a pair of surrogates is one character. -/
def unicodeEscape (bs : Bytes) : Except (Fault × Nat) (Char × Nat) := do
  let first ← hexUnit bs
  if isTrailing first then throw (.loneSurrogate, 4)
  if !isLeading first then return (Char.ofNat first, 4)
  match bs.drop 4 with
  | [] => throw (.endInString, 4)
  | b :: rest =>
    if b ≠ 0x5C then throw (.endOfHexEscape, 5)
    match rest with
    | [] => throw (.endInString, 5)
    | u :: rest =>
      if u ≠ 0x75 then throw (.endOfHexEscape, 6)
      let second ← readBefore 6 (hexUnit rest)
      if !isTrailing second then throw (.loneSurrogate, 10)
      return (Char.ofNat (0x10000 + (first - 0xD800) * 0x400 + (second - 0xDC00)), 10)

def shortEscape (b : UInt8) : Option Char :=
  if b = 0x22 then some '"'
  else if b = 0x5C then some '\\'
  else if b = 0x2F then some '/'
  else if b = 0x62 then some '\x08'
  else if b = 0x66 then some '\x0c'
  else if b = 0x6E then some '\n'
  else if b = 0x72 then some '\r'
  else if b = 0x74 then some '\t'
  else none

/-- The character of an escape, after its backslash. -/
def escape (bs : Bytes) : Except (Fault × Nat) (Char × Nat) :=
  match bs with
  | [] => .error (.endInString, 0)
  | b :: rest =>
    match shortEscape b with
    | some c => .ok (c, 1)
    | none =>
      if b = 0x75 then (readBefore 1 (unicodeEscape rest)).map fun (c, n) => (c, n + 1)
      else .error (.invalidEscape, 1)

/-- The length of an escape whose meaning does not matter. -/
def skipEscape (bs : Bytes) : Except (Fault × Nat) Nat :=
  match bs with
  | [] => .error (.endInString, 0)
  | b :: rest =>
    if (shortEscape b).isSome then .ok 1
    else if b = 0x75 then (readBefore 1 (hexUnit rest)).map fun _ => 5
    else .error (.invalidEscape, 1)

/-- The bytes of a string up to its closing quote, and the cursor behind it. -/
def stringBytes (read : List UInt8) (place : Place) (bs : Bytes) :
    Except Error (Bytes × Cursor) :=
  match bs with
  | [] => .error ⟨.endInString, place⟩
  | b :: rest =>
    if b = 0x22 then .ok (read.reverse, ⟨rest, place.after b⟩)
    else if b = 0x5C then
      let inside : Cursor := ⟨rest, place.after b⟩
      match escape rest with
      | .error (fault, n) => (inside.skip n).fail fault
      | .ok (c, n) =>
        stringBytes ((String.utf8EncodeChar c).reverse ++ read) (inside.skip n).place
          (rest.drop n)
    else if b < 0x20 then .error ⟨.controlCharacter, place.after b⟩
    else stringBytes (b :: read) (place.after b) rest
  termination_by bs.length
  decreasing_by all_goals (simp [List.length_drop]; try omega)

/-- Where the bytes of a string first cease to be characters. -/
def malformedPlace (place : Place) (bs : Bytes) : Place :=
  match bs with
  | [] => place
  | b :: rest =>
    let inside : Cursor := ⟨rest, place.after b⟩
    if b = 0x5C then
      match escape rest with
      | .error _ => place
      | .ok (_, n) => malformedPlace (inside.skip n).place (rest.drop n)
    else
      match Utf8.front b rest with
      | .char _ more => malformedPlace (inside.skip more).place (rest.drop more)
      | _ => inside.place
  termination_by bs.length
  decreasing_by all_goals (simp [List.length_drop]; try omega)

/-- A string after its opening quote. -/
def stringBody : Reader String := fun c => do
  let (bytes, after) ← stringBytes [] c.place c.rest
  match Utf8.decode? bytes with
  | some s => .ok (s, after)
  | none => .error ⟨.invalidCodePoint, malformedPlace c.place c.rest⟩

/-- Passes a string that nobody keeps, after its opening quote. -/
def skipString (place : Place) (bs : Bytes) : Except Error Cursor :=
  match bs with
  | [] => .error ⟨.endInString, place⟩
  | b :: rest =>
    if b = 0x22 then .ok ⟨rest, place.after b⟩
    else if b = 0x5C then
      let inside : Cursor := ⟨rest, place.after b⟩
      match skipEscape rest with
      | .error (fault, n) => (inside.skip n).fail fault
      | .ok n => skipString (inside.skip n).place (rest.drop n)
    else if b < 0x20 then .error ⟨.controlCharacter, place⟩
    else skipString (place.after b) rest
  termination_by bs.length
  decreasing_by all_goals (simp [List.length_drop]; try omega)

end Conduit.Json
