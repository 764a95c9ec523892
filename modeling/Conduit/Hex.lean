import Conduit.Utf8

/-!
Hexadecimal digits, written in lower case and read in any, and bytes as pairs of them.
-/

namespace Conduit.Hex

/-- The digit of a number below sixteen. -/
def digit (n : Nat) : Char :=
  if n < 10 then Char.ofNat (48 + n) else Char.ofNat (87 + n)

/-- The number that a code point is the digit of. -/
def value? (n : Nat) : Option Nat :=
  if 48 ≤ n ∧ n ≤ 57 then some (n - 48)
  else if 65 ≤ n ∧ n ≤ 70 then some (n - 55)
  else if 97 ≤ n ∧ n ≤ 102 then some (n - 87)
  else none

def encode (bs : Bytes) : String :=
  String.ofList (bs.flatMap fun b => [digit (b.toNat / 16), digit (b.toNat % 16)])

def decodeList : List Char → Option Bytes
  | [] => some []
  | [_] => none
  | a :: b :: rest => do
    let high ← value? a.toNat
    let low ← value? b.toNat
    return UInt8.ofNat (high * 16 + low) :: (← decodeList rest)

def decode? (s : String) : Option Bytes := decodeList s.toList

end Conduit.Hex
