import Conduit.Hex

/-!
Addresses that a server listens on: `a.b.c.d:port`, or an address of eight groups in brackets.
Readers take what they accept from the front of the text and give the rest.
-/

namespace Conduit.Net

inductive SocketAddress
  | v4 (octets : List Nat) (port : Nat)
  | v6 (groups : List Nat) (scope port : Nat)
  deriving DecidableEq, Repr

abbrev Front (α : Type) := List Char → Option (α × List Char)

/-- What a number may be: its base, its largest value, its most digits if there is a most, and
whether a zero may lead others. -/
structure NumberForm where
  base : Nat
  high : Nat
  maxDigits : Option Nat
  leadingZeros : Bool

def octetForm : NumberForm := ⟨10, 255, some 3, false⟩
def groupForm : NumberForm := ⟨16, 65535, some 4, true⟩
def portForm : NumberForm := ⟨10, 65535, none, true⟩
def scopeForm : NumberForm := ⟨10, 4294967295, none, true⟩

def digitIn? (base : Nat) (c : Char) : Option Nat := (Hex.value? c.toNat).filter (· < base)

/-- A number with as many digits as follow; one that is not of the form is none at all. -/
def number (form : NumberForm) : Front Nat := fun cs =>
  let digits := cs.takeWhile fun c => (digitIn? form.base c).isSome
  let value := digits.foldl (fun n c => n * form.base + (digitIn? form.base c).getD 0) 0
  let tooMany := match form.maxDigits with
    | some most => most < digits.length
    | none => false
  let badZero := !form.leadingZeros && digits.head? == some '0' && 1 < digits.length
  if digits.isEmpty || tooMany || badZero || form.high < value then none
  else some (value, cs.drop digits.length)

def char (c : Char) : Front Unit
  | d :: rest => if d = c then some ((), rest) else none
  | [] => none

/-- So many numbers with separators between them. -/
def numbers (form : NumberForm) (sep : Char) : Nat → Front (List Nat)
  | 0, cs => some ([], cs)
  | 1, cs => (number form cs).map fun (n, rest) => ([n], rest)
  | count + 1, cs => do
    let (n, rest) ← number form cs
    let (_, rest) ← char sep rest
    let (ns, rest) ← numbers form sep count rest
    return (n :: ns, rest)

def octets : Front (List Nat) := numbers octetForm '.' 4

/-- The two groups that four octets fill. -/
def groupsOfOctets : List Nat → List Nat
  | [a, b, c, d] => [a * 256 + b, c * 256 + d]
  | _ => []

/-- Something behind a colon, unless it comes first. -/
def afterColon {α : Type} (first : Bool) (read : Front α) : Front α := fun cs =>
  if first then read cs else (char ':' cs).bind fun (_, rest) => read rest

/-- Up to so many groups; four octets may stand for the last two. Also says whether they did. -/
def groups (first : Bool) : Nat → List Char → List Nat × Bool × List Char
  | 0, cs => ([], false, cs)
  | room + 1, cs =>
    match if room = 0 then none else afterColon first octets cs with
    | some (four, rest) => (groupsOfOctets four, true, rest)
    | none =>
      match afterColon first (number groupForm) cs with
      | none => ([], false, cs)
      | some (group, rest) =>
        let (more, four, rest) := groups false room rest
        (group :: more, four, rest)

/-- Eight groups; a double colon stands for one or more groups of zero. -/
def eightGroups : Front (List Nat) := fun cs =>
  let (head, four, rest) := groups true 8 cs
  if head.length = 8 then some (head, rest)
  else if four then none
  else do
    let (_, rest) ← char ':' rest
    let (_, rest) ← char ':' rest
    let (tail, _, rest) := groups true (7 - head.length) rest
    return (head ++ List.replicate (8 - head.length - tail.length) 0 ++ tail, rest)

def port : Front Nat := fun cs => do
  let (_, rest) ← char ':' cs
  number portForm rest

def scope (cs : List Char) : Nat × List Char :=
  ((char '%' cs).bind fun (_, rest) => number scopeForm rest).getD (0, cs)

def readV4 : Front SocketAddress := fun cs => do
  let (four, rest) ← octets cs
  let (p, rest) ← port rest
  return (.v4 four p, rest)

def readV6 : Front SocketAddress := fun cs => do
  let (_, rest) ← char '[' cs
  let (eight, rest) ← eightGroups rest
  let (s, rest) := scope rest
  let (_, rest) ← char ']' rest
  let (p, rest) ← port rest
  return (.v6 eight s p, rest)

namespace SocketAddress

/-- The address that is all of a text. -/
def parse? (s : String) : Option SocketAddress :=
  match readV4 s.toList <|> readV6 s.toList with
  | some (address, []) => some address
  | _ => none

end SocketAddress

end Conduit.Net
