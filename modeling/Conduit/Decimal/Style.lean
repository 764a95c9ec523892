import Conduit.Decimal.Shortest

/-!
Writing a double: its shortest digits, placed positionally or before a power of ten.
-/

namespace Conduit.Decimal

/-- How a style of writing places the point: positionally while the leading digit's power of ten lies in
`positional`, and with an exponent otherwise. -/
structure Style where
  positional : Int → Bool
  /-- What follows a whole number. -/
  wholeSuffix : String

/-- JSON numbers are positional from `10 ^ -5` up to `10 ^ 16`. -/
def Style.json : Style := ⟨fun e => -5 ≤ e && e < 16, ".0"⟩

/-- Every number positional, and a whole one with a point. -/
def Style.plain : Style := ⟨fun _ => true, ".0"⟩

def zeros (n : Nat) : List Char := List.replicate n '0'

def positionalText (wholeSuffix : String) (digits : List Char) (exponent : Int) : String :=
  if 0 ≤ exponent then String.ofList (digits ++ zeros exponent.toNat) ++ wholeSuffix
  else
    let places := (-exponent).toNat
    let padded := zeros (places + 1 - digits.length) ++ digits
    let whole := padded.length - places
    String.ofList (padded.take whole ++ '.' :: padded.drop whole)

def exponentText (digits : List Char) (lead : Int) : String :=
  let mantissa := match digits with
    | [] => []
    | [d] => [d]
    | d :: ds => d :: '.' :: ds
  let sign := if lead < 0 then '-' else '+'
  String.ofList (mantissa ++ 'e' :: sign :: (toString lead.natAbs).toList)

/-- A finite magnitude in a style. -/
def Style.render (style : Style) (s : Scaled) : String :=
  let digits := Nat.toDigits 10 s.digits
  let lead := s.exponent + Int.ofNat digits.length - 1
  if style.positional lead then positionalText style.wholeSuffix digits s.exponent
  else exponentText digits lead

/-- A finite double in a style, its sign first. -/
def Style.renderFloat (style : Style) (x : Float) : String :=
  let bits := x.toBits
  let magnitude := style.render (Binary.ofBits bits).shortest
  if bits.toNat / twoTo 63 = 1 then "-" ++ magnitude else magnitude

end Conduit.Decimal
