import Conduit.Hex

/-!
Names and values as forms and query strings write them: `name=value` pieces joined by `&`, a plus
sign for a blank, and bytes as `%` with two hexadecimal digits.
-/

namespace Conduit.Form

/-- Undoes `%` and `+`, in front of bytes read already; an escape without two digits stands for
itself. -/
def unescapeFrom (read : Bytes) : Bytes → Bytes
  | [] => read.reverse
  | b :: rest =>
    if b = 0x2B then unescapeFrom (0x20 :: read) rest
    else if b = 0x25 then
      match rest with
      | high :: low :: more =>
        match Hex.value? high.toNat, Hex.value? low.toNat with
        | some h, some l => unescapeFrom (UInt8.ofNat (h * 16 + l) :: read) more
        | _, _ => unescapeFrom (b :: read) (high :: low :: more)
      | short => unescapeFrom (b :: read) short
    else unescapeFrom (b :: read) rest

def unescape (bs : Bytes) : String := Utf8.decodeLenient (unescapeFrom [] bs)

def pair (piece : Bytes) : String × String :=
  let name := piece.takeWhile (· != 0x3D)
  (unescape name, unescape (piece.drop (name.length + 1)))

/-- The pairs of a form; empty pieces are skipped. -/
def pairs (bs : Bytes) : List (String × String) :=
  ((bs.splitOn 0x26).filter (! ·.isEmpty)).map pair

end Conduit.Form
