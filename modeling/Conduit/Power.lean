/-!
Powers of the bases that numbers are written in.
-/

namespace Conduit

def twoTo (n : Nat) : Nat := Nat.pow 2 n

def tenTo (n : Nat) : Nat := Nat.pow 10 n

/-- The number of values of so many bytes. -/
def bytesTo (n : Nat) : Nat := Nat.pow 256 n

/-- The range of signed words of 64 bits. -/
def isInt64 (n : Int) : Bool := -Int.ofNat (twoTo 63) ≤ n && n < Int.ofNat (twoTo 63)

/-- The largest word of 64 bits without a sign. -/
def maxWord : Nat := twoTo 64 - 1

end Conduit
