import Conduit.Decimal.Reader
import Conduit.Hex
import Conduit.Power
import Conduit.Toml.Basic

/-!
Scalars that TOML writes without quotation marks: booleans, numbers, dates and times.
-/

namespace Conduit.Toml

/-- Digits with single underscores between them; the digits alone. -/
def digitsOf (isDigit : Char → Bool) (cs : List Char) : Option (List Char) :=
  let parts := cs.splitOn '_'
  if parts.all fun part => !part.isEmpty && part.all isDigit then some parts.flatten else none

/-- A whole number within signed 64 bits. -/
def fitWord (n : Int) : Option Toml :=
  if isInt64 n then some (.int n) else none

/-- Splits a sign off. -/
def signed (cs : List Char) : Bool × List Char :=
  match cs with
  | '+' :: rest => (false, rest)
  | '-' :: rest => (true, rest)
  | cs => (false, cs)

/-- The digits of a decimal number, which no zero leads. -/
def plainDigits (cs : List Char) : Option (List Char) := do
  let digits ← digitsOf Char.isDigit cs
  if digits.head? = some '0' ∧ 1 < digits.length then none else some digits

def inBase (base : Nat) (cs : List Char) : Option Toml := do
  let value (c : Char) : Option Nat := (Hex.value? c.toNat).filter (· < base)
  let digits ← digitsOf (fun c => (value c).isSome) cs
  fitWord (digits.foldl (fun n c => n * base + (value c).getD 0) 0 : Nat)

/-- A whole number; the other bases have no signs. -/
def int? (cs : List Char) : Option Toml :=
  match cs with
  | '0' :: 'x' :: digits => inBase 16 digits
  | '0' :: 'o' :: digits => inBase 8 digits
  | '0' :: 'b' :: digits => inBase 2 digits
  | cs => do
    let (negative, rest) := signed cs
    let n : Int := Decimal.natOfDigits (← plainDigits rest)
    fitWord (if negative then -n else n)

/-- The exponent of a double, with its letter. -/
def exponent? (cs : List Char) : Option (List Char) :=
  match cs with
  | [] => some []
  | _ :: rest => do
    let (negative, digits) := signed rest
    let digits ← digitsOf Char.isDigit digits
    return 'e' :: (if negative then '-' :: digits else digits)

/-- A double: with a fraction, an exponent or both. -/
def decimal? (cs : List Char) : Option (List Char) := do
  let isMark (c : Char) : Bool := c == '.' || c == 'e' || c == 'E'
  let whole ← plainDigits (cs.takeWhile (! isMark ·))
  match cs.dropWhile (! isMark ·) with
  | [] => none
  | '.' :: rest =>
    let isLetter (c : Char) : Bool := c == 'e' || c == 'E'
    let fraction ← digitsOf Char.isDigit (rest.takeWhile (! isLetter ·))
    let exponent ← exponent? (rest.dropWhile (! isLetter ·))
    return whole ++ '.' :: fraction ++ exponent
  | rest => return whole ++ (← exponent? rest)

/-- A double that is not beyond the largest. -/
def float? (cs : List Char) : Option Toml := do
  let (negative, rest) := signed cs
  let sign (x : Float) : Float := if negative then -x else x
  if rest = ['i', 'n', 'f'] then return .float (sign (1.0 / 0.0))
  if rest = ['n', 'a', 'n'] then return .float (sign (0.0 / 0.0))
  let x ← Decimal.readFloat (String.ofList (← decimal? rest))
  if x.isInf && !negative then none else some (.float (sign x))

/-! ## Dates and times -/

/-- Exactly two digits within a range. -/
def two? (low high : Nat) (cs : List Char) : Option Nat :=
  match cs with
  | [a, b] =>
    let n := Decimal.natOfDigits [a, b]
    if a.isDigit && b.isDigit && low ≤ n && n ≤ high then some n else none
  | _ => none

def daysIn (year month : Nat) : Nat :=
  if month = 2 then
    if year % 4 = 0 ∧ (year % 100 ≠ 0 ∨ year % 400 = 0) then 29 else 28
  else if month = 4 ∨ month = 6 ∨ month = 9 ∨ month = 11 then 30
  else 31

def isDate (cs : List Char) : Bool :=
  match cs.splitOn '-' with
  | [year, month, day] =>
    if year.length = 4 ∧ year.all Char.isDigit then
      match two? 1 12 month with
      | some m => (two? 1 (daysIn (Decimal.natOfDigits year) m) day).isSome
      | none => false
    else false
  | _ => false

/-- Seconds may have a fraction. -/
def isSeconds (cs : List Char) : Bool :=
  match cs.splitOn '.' with
  | [whole] => (two? 0 60 whole).isSome
  | [whole, fraction] =>
    (two? 0 60 whole).isSome && !fraction.isEmpty && fraction.all Char.isDigit
  | _ => false

def isTime (cs : List Char) : Bool :=
  match cs.splitOn ':' with
  | [hour, minute, second] =>
    (two? 0 23 hour).isSome && (two? 0 59 minute).isSome && isSeconds second
  | _ => false

def isOffset (cs : List Char) : Bool :=
  match cs.splitOn ':' with
  | [hour, minute] => (two? 0 23 hour).isSome && (two? 0 59 minute).isSome
  | _ => false

/-- A time that a date goes before, with or without an offset. -/
def isTimeWithOffset (cs : List Char) : Bool :=
  let isSign (c : Char) : Bool := c == '+' || c == '-'
  match cs.getLast? with
  | some 'Z' | some 'z' => isTime cs.dropLast
  | _ =>
    match cs.dropWhile (! isSign ·) with
    | [] => isTime cs
    | _ :: offset => isTime (cs.takeWhile (! isSign ·)) && isOffset offset

def isMoment (cs : List Char) : Bool :=
  isDate cs || isTime cs
    || (isDate (cs.take 10) && match cs.drop 10 with
      | c :: time => (c == 'T' || c == 't' || c == ' ') && isTimeWithOffset time
      | [] => false)

/-- A scalar without quotation marks, from all of its characters. -/
def scalar? (cs : List Char) : Option Toml :=
  if cs = "true".toList then some (.bool true)
  else if cs = "false".toList then some (.bool false)
  else if isMoment cs then some (.moment (String.ofList cs))
  else float? cs <|> int? cs

end Conduit.Toml
