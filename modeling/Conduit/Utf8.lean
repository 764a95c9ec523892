/-!
UTF-8: strict decoding, which says where a text breaks off, and lenient decoding, which puts
U+FFFD for every malformed sequence.
-/

namespace Conduit

abbrev Bytes := List UInt8

namespace Utf8

def encode (s : String) : Bytes :=
  s.toList.flatMap String.utf8EncodeChar

/-- What a byte and the bytes after it start with. -/
inductive Front
  /-- A character that takes `more` of the following bytes. -/
  | char (c : Char) (more : Nat)
  /-- No character starts so; `width` bytes are malformed. -/
  | malformed (width : Nat)
  /-- The bytes end inside a character. -/
  | truncated
  deriving DecidableEq, Repr

def within (low high b : UInt8) : Bool := low ≤ b && b ≤ high

def isTail (b : UInt8) : Bool := within 0x80 0xBF b

/-- The second byte of a character, given the first of three or four. -/
def isSecond (lead b : UInt8) : Bool :=
  if lead = 0xE0 then within 0xA0 0xBF b
  else if lead = 0xED then within 0x80 0x9F b
  else if lead = 0xF0 then within 0x90 0xBF b
  else if lead = 0xF4 then within 0x80 0x8F b
  else isTail b

/-- The character whose lead byte leaves `high` bits and whose tails follow. -/
def assemble (high : Nat) (tails : List UInt8) : Char :=
  Char.ofNat (tails.foldl (fun n b => n * 64 + (b.toNat - 0x80)) high)

def front (lead : UInt8) (rest : Bytes) : Front :=
  if lead < 0x80 then .char (Char.ofNat lead.toNat) 0
  else if within 0xC2 0xDF lead then
    match rest with
    | [] => .truncated
    | b :: _ => if isTail b then .char (assemble (lead.toNat - 0xC0) [b]) 1 else .malformed 1
  else if within 0xE0 0xEF lead then
    match rest with
    | [] => .truncated
    | b :: rest =>
      if !isSecond lead b then .malformed 1
      else match rest with
        | [] => .truncated
        | c :: _ =>
          if isTail c then .char (assemble (lead.toNat - 0xE0) [b, c]) 2 else .malformed 2
  else if within 0xF0 0xF4 lead then
    match rest with
    | [] => .truncated
    | b :: rest =>
      if !isSecond lead b then .malformed 1
      else match rest with
        | [] => .truncated
        | c :: rest =>
          if !isTail c then .malformed 2
          else match rest with
            | [] => .truncated
            | d :: _ =>
              if isTail d then .char (assemble (lead.toNat - 0xF0) [b, c, d]) 3
              else .malformed 3
  else .malformed 1

/-- Where a text breaks off: at `index`, over `width` bytes, or by ending too early. -/
structure Fault where
  index : Nat
  width : Option Nat
  deriving DecidableEq, Repr

def Fault.message (f : Fault) : String :=
  match f.width with
  | some width => s!"invalid utf-8 sequence of {width} bytes from index {f.index}"
  | none => s!"incomplete utf-8 byte sequence from index {f.index}"

def decodeFrom (index : Nat) (read : List Char) : Bytes → Except Fault (List Char)
  | [] => .ok read.reverse
  | b :: rest =>
    match front b rest with
    | .char c more => decodeFrom (index + 1 + more) (c :: read) (rest.drop more)
    | .malformed width => .error ⟨index, some width⟩
    | .truncated => .error ⟨index, none⟩
  termination_by bs => bs.length
  decreasing_by simp only [List.length_drop, List.length_cons]; omega

/-- The text that the bytes encode, or the first fault in them. -/
def decode (bs : Bytes) : Except Fault String :=
  (decodeFrom 0 [] bs).map String.ofList

def decode? (bs : Bytes) : Option String := (decode bs).toOption

def decodeLenientFrom (read : List Char) : Bytes → List Char
  | [] => read.reverse
  | b :: rest =>
    match front b rest with
    | .char c more => decodeLenientFrom (c :: read) (rest.drop more)
    | .malformed width => decodeLenientFrom ('\uFFFD' :: read) (rest.drop (width - 1))
    | .truncated => ('\uFFFD' :: read).reverse
  termination_by bs => bs.length
  decreasing_by all_goals (simp only [List.length_drop, List.length_cons]; omega)

/-- The text with U+FFFD in place of each malformed or truncated sequence. -/
def decodeLenient (bs : Bytes) : String :=
  String.ofList (decodeLenientFrom [] bs)

end Utf8

end Conduit
