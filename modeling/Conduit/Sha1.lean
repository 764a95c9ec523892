import Conduit.Power
import Conduit.Utf8

/-!
The SHA-1 digest of bytes.
-/

namespace Conduit.Sha1

def rotateLeft (x : UInt32) (n : UInt32) : UInt32 := (x <<< n) ||| (x >>> (32 - n))

/-- A length in bits as eight bytes, the highest first. -/
def lengthBytes (bits : Nat) : Bytes :=
  (List.range 8).map fun i => UInt8.ofNat (bits / bytesTo (7 - i) % 256)

/-- The message filled up to whole blocks of 64 bytes. -/
def padded (message : Bytes) : Bytes :=
  let zeros := (119 - message.length % 64) % 64
  message ++ 0x80 :: List.replicate zeros 0 ++ lengthBytes (message.length * 8)

def words : Bytes → List UInt32
  | a :: b :: c :: d :: rest =>
    (a.toUInt32 <<< 24 ||| b.toUInt32 <<< 16 ||| c.toUInt32 <<< 8 ||| d.toUInt32) :: words rest
  | _ => []

/-- Extends sixteen words, the latest first, by one word at a time. -/
def extend : Nat → List UInt32 → List UInt32
  | 0, latest => latest
  | n + 1, latest =>
    let word (back : Nat) := latest.getD (back - 1) 0
    extend n (rotateLeft (word 3 ^^^ word 8 ^^^ word 14 ^^^ word 16) 1 :: latest)

def schedule (block : List UInt32) : List UInt32 := (extend 64 block.reverse).reverse

structure State where
  a : UInt32
  b : UInt32
  c : UInt32
  d : UInt32
  e : UInt32

def initial : State := ⟨0x67452301, 0xEFCDAB89, 0x98BADCFE, 0x10325476, 0xC3D2E1F0⟩

/-- The mixing function and constant of a round. -/
def mixing (round : Nat) (b c d : UInt32) : UInt32 × UInt32 :=
  if round < 20 then ((b &&& c) ||| (~~~b &&& d), 0x5A827999)
  else if round < 40 then (b ^^^ c ^^^ d, 0x6ED9EBA1)
  else if round < 60 then ((b &&& c) ||| (b &&& d) ||| (c &&& d), 0x8F1BBCDC)
  else (b ^^^ c ^^^ d, 0xCA62C1D6)

def rounds (round : Nat) (s : State) : List UInt32 → State
  | [] => s
  | w :: rest =>
    let (f, k) := mixing round s.b s.c s.d
    let a := rotateLeft s.a 5 + f + s.e + k + w
    rounds (round + 1) ⟨a, s.a, rotateLeft s.b 30, s.c, s.d⟩ rest

def compress (s : State) (block : List UInt32) : State :=
  let t := rounds 0 s (schedule block)
  ⟨s.a + t.a, s.b + t.b, s.c + t.c, s.d + t.d, s.e + t.e⟩

/-- Takes the blocks of sixteen words one after another; there are at most `bound`. -/
def blocks (bound : Nat) (s : State) (ws : List UInt32) : State :=
  match bound, ws with
  | 0, _ => s
  | _, [] => s
  | bound + 1, ws => blocks bound (compress s (ws.take 16)) (ws.drop 16)

def wordBytes (w : UInt32) : Bytes :=
  [(w >>> 24).toUInt8, (w >>> 16).toUInt8, (w >>> 8).toUInt8, w.toUInt8]

def digest (message : Bytes) : Bytes :=
  let ws := words (padded message)
  let s := blocks ws.length initial ws
  [s.a, s.b, s.c, s.d, s.e].flatMap wordBytes

end Conduit.Sha1
