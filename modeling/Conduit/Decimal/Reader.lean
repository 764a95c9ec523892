import Conduit.Power

/-!
Reading whole numbers and doubles from text.
-/

namespace Conduit.Decimal

/-- Why a text is no whole number of a range. -/
inductive IntFault
  | empty
  | invalidDigit
  | tooLarge
  | tooSmall
  deriving DecidableEq, Repr

def IntFault.message : IntFault → String
  | empty => "cannot parse integer from empty string"
  | invalidDigit => "invalid digit found in string"
  | tooLarge => "number too large to fit in target type"
  | tooSmall => "number too small to fit in target type"

/-- Reads digits while the magnitude stays below the bound; the first digit that is none or goes
over it decides the fault. -/
def readDigits (bound : Nat) (beyond : IntFault) (value : Nat) : List Char → Except IntFault Nat
  | [] => .ok value
  | c :: rest =>
    if c.isDigit then
      let grown := value * 10 + (c.toNat - 48)
      if grown ≤ bound then readDigits bound beyond grown rest else .error beyond
    else .error .invalidDigit

/-- A whole number from `low` to `high`, with an optional sign; a minus sign needs a negative
`low`. -/
def readInt (low high : Int) (s : String) : Except IntFault Int :=
  match s.toList with
  | [] => .error .empty
  | c :: rest =>
    if rest.isEmpty ∧ (c = '+' ∨ c = '-') then .error .invalidDigit
    else if c = '+' then (readDigits high.toNat .tooLarge 0 rest).map Int.ofNat
    else if c = '-' ∧ low < 0 then
      (readDigits (-low).toNat .tooSmall 0 rest).map fun n => -(n : Int)
    else (readDigits high.toNat .tooLarge 0 (c :: rest)).map Int.ofNat

def natOfDigits (digits : List Char) : Nat :=
  digits.foldl (fun n c => n * 10 + (c.toNat - 48)) 0

/-- The double nearest to `digits * 10 ^ exponent`. Beyond every double it is infinite or zero. -/
def nearest (digits : List Char) (exponent : Int) : Float :=
  let digits := digits.dropWhile (· == '0')
  let size := exponent + Int.ofNat digits.length
  if digits.isEmpty then 0
  else if 310 < size then 1.0 / 0.0
  else if size < -330 then 0
  else Float.ofScientific (natOfDigits digits) (exponent < 0) exponent.natAbs

/-- A double in decimal or exponent notation, after its sign. -/
def readMagnitude (cs : List Char) : Option Float :=
  let whole := cs.takeWhile Char.isDigit
  let rest := cs.drop whole.length
  let (fraction, rest) := match rest with
    | '.' :: more => (more.takeWhile Char.isDigit, more.dropWhile Char.isDigit)
    | _ => ([], rest)
  if whole.isEmpty && fraction.isEmpty then none
  else
    let places : Int := Int.ofNat fraction.length
    match rest with
    | [] => some (nearest (whole ++ fraction) (-places))
    | e :: more =>
      if e ≠ 'e' ∧ e ≠ 'E' then none
      else
        let (negative, digits) := match more with
          | '+' :: ds => (false, ds)
          | '-' :: ds => (true, ds)
          | ds => (false, ds)
        if digits.isEmpty || !digits.all Char.isDigit then none
        else
          let digits := digits.dropWhile (· == '0')
          let size := if digits.length ≤ 9 then natOfDigits digits else tenTo 9
          let exponent := if negative then -(Int.ofNat size) else Int.ofNat size
          some (nearest (whole ++ fraction) (exponent - places))

/-- A double, with an optional sign; the words for infinity and no number count in any case. -/
def readFloat (s : String) : Option Float :=
  let (negative, cs) := match s.toList with
    | '+' :: cs => (false, cs)
    | '-' :: cs => (true, cs)
    | cs => (false, cs)
  let word := String.ofList (cs.map Char.toLower)
  let magnitude :=
    if word = "inf" ∨ word = "infinity" then some (1.0 / 0.0)
    else if word = "nan" then some (0.0 / 0.0)
    else readMagnitude cs
  magnitude.map fun x => if negative then -x else x

end Conduit.Decimal
