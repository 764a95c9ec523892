import Conduit.Power

/-!
The shortest decimal that reads back as a given binary floating-point number, in exact integer
arithmetic.
-/

namespace Conduit.Decimal

/-- A number `digits * 10 ^ exponent`. -/
structure Scaled where
  digits : Nat
  exponent : Int
  deriving DecidableEq, Repr

/-- A positive finite binary number `mantissa * 2 ^ exponent`, with the distance to its lower
neighbour halved at a power of two. -/
structure Binary where
  mantissa : Nat
  exponent : Int
  narrowBelow : Bool
  deriving DecidableEq, Repr

/-- The magnitude of a finite double: 52 stored bits under an exponent field of 11. -/
def Binary.ofBits (bits : UInt64) : Binary :=
  let fraction := bits.toNat % twoTo 52
  let field := bits.toNat / twoTo 52 % twoTo 11
  if field = 0 then ⟨fraction, -1074, false⟩
  else ⟨twoTo 52 + fraction, Int.ofNat field - 1075, fraction == 0 && field > 1⟩

/-- A quarter of the last binary place, as the numerator and denominator of `2 ^ e / 4`. -/
def Binary.quarter (b : Binary) : Nat × Nat :=
  let e := b.exponent - 2
  if 0 ≤ e then (twoTo e.toNat, 1) else (1, twoTo (-e).toNat)

/-- The power of ten above a positive quotient: the least `k` with `num / den < 10 ^ k`. -/
def magnitude (num den : Nat) : Int :=
  if den ≤ num then ((Nat.toDigits 10 (num / den)).length : Int)
  else
    match (List.range 400).find? fun j => den ≤ num * tenTo (j + 1) with
    | some j => -(j : Int)
    | none => -400

def Scaled.trimZeros (fuel : Nat) (s : Scaled) : Scaled :=
  match fuel with
  | 0 => s
  | fuel + 1 =>
    if s.digits ≠ 0 ∧ s.digits % 10 = 0 then
      Scaled.trimZeros fuel ⟨s.digits / 10, s.exponent + 1⟩
    else s

/-- On the decimal grid `10 ^ e`, the neighbour of the number that lies in the interval of reals
that round to it; of two, the nearer, and the even one if they are equally near. -/
def Binary.onGrid (b : Binary) (e : Int) : Option Scaled :=
  let (unit, den) := b.quarter
  let (up, down) := if 0 ≤ e then (1, tenTo e.toNat) else (tenTo (-e).toNat, 1)
  -- in units of the grid, the number is `4 * mantissa * unit * up / (den * down)`
  let scale := unit * up
  let place := den * down
  let exact := 4 * b.mantissa * scale
  let low := (4 * b.mantissa - if b.narrowBelow then 1 else 2) * scale
  let high := (4 * b.mantissa + 2) * scale
  let closed := b.mantissa % 2 = 0
  let inside (c : Nat) : Bool :=
    let x := c * place
    if closed then low ≤ x && x ≤ high else low < x && x < high
  let c := exact / place
  let below := exact - c * place
  let above := (c + 1) * place - exact
  match inside c, inside (c + 1) with
  | true, true =>
    some ⟨if below < above ∨ (below = above ∧ c % 2 = 0) then c else c + 1, e⟩
  | true, false => some ⟨c, e⟩
  | false, true => some ⟨c + 1, e⟩
  | false, false => none

/-- The decimal with the fewest digits that rounds to the number, and the nearest to it of those:
seventeen digits always suffice. -/
def Binary.shortest (b : Binary) : Scaled :=
  if b.mantissa = 0 then ⟨0, 0⟩
  else
    let (unit, den) := b.quarter
    let top := magnitude (4 * b.mantissa * unit) den
    let found := (List.range 17).findSome? fun n => b.onGrid (top - Int.ofNat (n + 1))
    (found.getD ⟨0, 0⟩).trimZeros 20

end Conduit.Decimal
