import Conduit.Json.Basic
import Conduit.Json.Cursor
import Conduit.Power

/-!
Numbers in JSON text. Digits are collected into 64 bits while they fit; a number with a fraction,
an exponent or too many digits is the collected digits times a power of ten, in doubles.
-/

namespace Conduit.Json

def isDigit (b : UInt8) : Bool := 48 ≤ b && b ≤ 57

/-- Collects digits while the result fits 64 bits, and counts how many it took. -/
def collect (significand taken : Nat) : Bytes → Nat × Nat
  | [] => (significand, taken)
  | b :: rest =>
    if isDigit b then
      let grown := significand * 10 + (b.toNat - 48)
      if grown ≤ maxWord then collect grown (taken + 1) rest else (significand, taken)
    else (significand, taken)

def countDigits (n : Nat) : Bytes → Nat
  | [] => n
  | b :: rest => if isDigit b then countDigits (n + 1) rest else n

/-- Ten to a power up to 308, as a double. -/
def powerOfTen (n : Nat) : Float := Float.ofScientific 1 false n

/-- `x * 10 ^ exponent` by one multiplication or division, after dividing by `10 ^ 308` as long as
the exponent is below the table; `none` if it is too large for a double. -/
def scaleBy (fuel : Nat) (x : Float) (exponent : Int) : Option Float :=
  if exponent.natAbs ≤ 308 then
    if 0 ≤ exponent then
      let y := x * powerOfTen exponent.natAbs
      if y.isInf then none else some y
    else some (x / powerOfTen exponent.natAbs)
  else if x == 0 then some x
  else if 0 ≤ exponent then none
  else match fuel with
    | 0 => some x
    | fuel + 1 => scaleBy fuel (x / powerOfTen 308) (exponent + 308)

/-- A double of the given sign; three steps of `10 ^ 308` reach zero from any word. -/
def signedFloat (positive : Bool) (significand : Nat) (exponent : Int) (c : Cursor) :
    Except Error (Number × Cursor) :=
  match scaleBy 3 (Float.ofNat significand) exponent with
  | none => c.fail .numberOutOfRange
  | some x => .ok (.float (if positive then x else -x), c)

def maxExponent : Int := Int.ofNat (twoTo 31) - 1

/-- An exponent stays in the range of signed 32-bit words. -/
def clampExponent (e : Int) : Int :=
  if e > maxExponent then maxExponent else if e < -maxExponent - 1 then -maxExponent - 1 else e

/-- The digits of an exponent; `none` and the place of the digit at which they grow too large. -/
def exponentDigits (value : Nat) (place : Place) : Bytes → Option Nat × Cursor
  | [] => (some value, ⟨[], place⟩)
  | b :: rest =>
    if isDigit b then
      let grown := value * 10 + (b.toNat - 48)
      if (grown : Int) ≤ maxExponent then exponentDigits grown (place.after b) rest
      else (none, ⟨rest, place.after b⟩)
    else (some value, ⟨b :: rest, place⟩)

/-- What follows the letter of an exponent. -/
def exponentPart (positive : Bool) (significand : Nat) (start : Int) (c : Cursor) :
    Except Error (Number × Cursor) :=
  let (up, c) := match c.peek? with
    | some 0x2B => (true, c.next)
    | some 0x2D => (false, c.next)
    | _ => (true, c)
  match c.rest with
  | [] => c.fail .endInValue
  | b :: rest =>
    if !isDigit b then c.next.fail .invalidNumber
    else
      match exponentDigits (b.toNat - 48) c.next.place rest with
      | (some e, c) =>
        let e := if up then start + (e : Int) else start - (e : Int)
        signedFloat positive significand (clampExponent e) c
      | (none, c) =>
        if significand ≠ 0 ∧ up then c.fail .numberOutOfRange
        else .ok (.float (if positive then 0.0 else -0.0), c.skip (countDigits 0 c.rest))

def isExponentLetter (b : Option UInt8) : Bool := b == some 0x65 || b == some 0x45

/-- What follows the point of a number; digits that no longer fit are dropped. -/
def fractionPart (positive : Bool) (significand : Nat) (start : Int) (c : Cursor) :
    Except Error (Number × Cursor) :=
  let written := countDigits 0 c.rest
  if written = 0 then
    if c.rest.isEmpty then c.failPeek .endInValue else c.failPeek .invalidNumber
  else
    let (significand, taken) := collect significand 0 c.rest
    let c := c.skip written
    let exponent := start - (taken : Int)
    if isExponentLetter c.peek? then exponentPart positive significand exponent c.next
    else signedFloat positive significand exponent c

/-- What follows the whole digits, `dropped` of which did not fit. -/
def afterWhole (positive : Bool) (significand dropped : Nat) (c : Cursor) :
    Except Error (Number × Cursor) :=
  if c.peek? == some 0x2E then fractionPart positive significand dropped c.next
  else if isExponentLetter c.peek? then exponentPart positive significand dropped c.next
  else if dropped ≠ 0 then signedFloat positive significand dropped c
  else if positive then .ok (.int significand, c)
  else if significand = 0 ∨ twoTo 63 < significand then
    .ok (.float (-(Float.ofNat significand)), c)
  else .ok (.int (-(significand : Int)), c)

/-- A number from its first digit on. -/
def unsignedNumber (positive : Bool) : Reader Number := fun c =>
  match c.rest with
  | [] => c.fail .endInValue
  | b :: rest =>
    if b = 48 then
      if (rest.head?.map isDigit).getD false then c.next.failPeek .invalidNumber
      else afterWhole positive 0 0 c.next
    else if isDigit b then
      let written := countDigits 0 (b :: rest)
      let (significand, taken) := collect 0 0 (b :: rest)
      afterWhole positive significand (written - taken) (c.skip written)
    else c.next.fail .invalidNumber

/-- A number that starts with a minus sign or a digit. -/
def number : Reader Number := fun c =>
  if c.peek? == some 0x2D then unsignedNumber false c.next else unsignedNumber true c

end Conduit.Json
