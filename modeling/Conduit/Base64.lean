import Conduit.Utf8

/-!
Bytes as base64 text: written with the standard alphabet and padding, read with the alphabet for
URLs and without padding.
-/

namespace Conduit.Base64

/-- The symbol of six bits in the standard alphabet. -/
def symbol (n : Nat) : Char :=
  if n < 26 then Char.ofNat (65 + n)
  else if n < 52 then Char.ofNat (71 + n)
  else if n < 62 then Char.ofNat (n - 4)
  else if n = 62 then '+'
  else '/'

def encodeList : Bytes → List Char
  | [] => []
  | [a] =>
    let n := a.toNat * 16
    [symbol (n / 64), symbol (n % 64), '=', '=']
  | [a, b] =>
    let n := (a.toNat * 256 + b.toNat) * 4
    [symbol (n / 4096), symbol (n / 64 % 64), symbol (n % 64), '=']
  | a :: b :: c :: rest =>
    let n := (a.toNat * 256 + b.toNat) * 256 + c.toNat
    symbol (n / 262144) :: symbol (n / 4096 % 64) :: symbol (n / 64 % 64) :: symbol (n % 64)
      :: encodeList rest

def encode (bs : Bytes) : String := String.ofList (encodeList bs)

/-- The six bits of a symbol in the alphabet for URLs. -/
def urlValue? (b : UInt8) : Option Nat :=
  let n := b.toNat
  if 65 ≤ n ∧ n ≤ 90 then some (n - 65)
  else if 97 ≤ n ∧ n ≤ 122 then some (n - 71)
  else if 48 ≤ n ∧ n ≤ 57 then some (n + 4)
  else if n = 45 then some 62
  else if n = 95 then some 63
  else none

inductive Fault
  | invalidSymbol (byte : UInt8) (offset : Nat)
  | invalidLastSymbol (byte : UInt8) (offset : Nat)
  | invalidLength (length : Nat)
  deriving DecidableEq, Repr

def Fault.message : Fault → String
  | invalidSymbol byte offset => s!"Invalid symbol {byte.toNat}, offset {offset}."
  | invalidLastSymbol byte offset => s!"Invalid last symbol {byte.toNat}, offset {offset}."
  | invalidLength length => s!"Invalid input length: {length}"

/-- The values of symbols from an offset on, up to the first that is none. -/
def urlValues (offset : Nat) : Bytes → Except Fault (List Nat)
  | [] => .ok []
  | b :: rest =>
    match urlValue? b with
    | some n => (urlValues (offset + 1) rest).map (n :: ·)
    | none => .error (.invalidSymbol b offset)

/-- The bytes of six-bit values; bits that fill no byte are dropped. -/
def assemble : List Nat → Bytes
  | a :: b :: c :: d :: rest =>
    let n := ((a * 64 + b) * 64 + c) * 64 + d
    UInt8.ofNat (n / 65536) :: UInt8.ofNat (n / 256 % 256) :: UInt8.ofNat (n % 256)
      :: assemble rest
  | [a, b, c] =>
    let n := ((a * 64 + b) * 64 + c) / 4
    [UInt8.ofNat (n / 256), UInt8.ofNat (n % 256)]
  | [a, b] => [UInt8.ofNat ((a * 64 + b) / 16)]
  | _ => []

/-- The bits of the last value that fill no byte. -/
def spareBits (values : List Nat) : Nat :=
  match values.length % 4, values.getLast? with
  | 2, some n => n % 16
  | 3, some n => n % 4
  | _, _ => 0

/-- Reads text without padding. A last symbol that stands alone is looked at first; the bits that
fill no byte have to be zero. -/
def decodeUrl (bs : Bytes) : Except Fault Bytes :=
  match bs.getLast? with
  | none => .ok []
  | some last =>
    if bs.length % 4 = 1 ∧ last ≠ 0x3D ∧ (urlValue? last).isNone then
      .error (.invalidSymbol last (bs.length - 1))
    else
      match urlValues 0 bs with
      | .error fault => .error fault
      | .ok values =>
        if bs.length % 4 = 1 then .error (.invalidLength bs.length)
        else if spareBits values ≠ 0 then .error (.invalidLastSymbol last (bs.length - 1))
        else .ok (assemble values)

end Conduit.Base64
