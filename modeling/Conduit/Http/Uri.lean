import Conduit.Text
import Conduit.Utf8

/-!
Request targets: a path with an optional query, an absolute URI, an authority alone, or `*`.
Fragments are dropped.
-/

namespace Conduit

structure Uri where
  scheme : Option String
  authority : String
  /-- As written; empty for an authority alone. -/
  rawPath : String
  query : Option String
  deriving DecidableEq, Repr, Inhabited

namespace Uri

def maxLength : Nat := 65534

/-- Paths may hold most visible ASCII and every character beyond it. -/
def isPathChar (c : Char) : Bool :=
  let n := c.toNat
  n == 0x21 || (0x24 ≤ n && n ≤ 0x3B) || n == 0x3D || (0x40 ≤ n && n ≤ 0x5F)
    || (0x61 ≤ n && n ≤ 0x7E) || 0x7F ≤ n || n == 0x22

def isQueryChar (c : Char) : Bool :=
  let n := c.toNat
  n == 0x21 || (0x24 ≤ n && n ≤ 0x3B) || n == 0x3D || 0x3F ≤ n

/-- A path up to `?` or `#`, and a query up to `#`. -/
def pathAndQuery (cs : List Char) : Option (String × Option String) :=
  let path := cs.takeWhile fun c => c ≠ '?' ∧ c ≠ '#'
  if !path.all isPathChar then none
  else
    match cs.drop path.length with
    | '?' :: rest =>
      let query := rest.takeWhile (· ≠ '#')
      if query.all isQueryChar then some (String.ofList path, some (String.ofList query)) else none
    | _ => some (String.ofList path, none)

def isAuthorityChar (c : Char) : Bool :=
  c.isAlphanum || "!$&\x27()*+,-.:;=@[]_~".toList.contains c

/-- What the characters of an authority amount to so far. -/
structure AuthorityState where
  colons : Nat
  opened : Bool
  closed : Bool
  percent : Bool
  /-- The last character was an at sign. -/
  atSign : Bool

/-- One character of an authority: user information ends at `@`, and brackets hold an address whose
colons are its own. -/
def authorityStep (s : AuthorityState) (c : Char) : Option AuthorityState :=
  let s := { s with atSign := c = '@' }
  if c = ':' then if s.colons < 8 then some { s with colons := s.colons + 1 } else none
  else if c = '[' then if s.percent || s.opened then none else some { s with opened := true }
  else if c = ']' then
    if !s.opened || s.closed then none
    else some { s with closed := true, colons := 0, percent := false }
  else if c = '@' then some { s with colons := 0, percent := false }
  else if c = '%' then some { s with percent := true }
  else if isAuthorityChar c then some s
  else none

def isAuthority (cs : List Char) : Bool :=
  match cs.foldlM authorityStep ⟨0, false, false, false, false⟩ with
  | none => false
  | some s => s.opened == s.closed && s.colons ≤ 1 && !s.atSign && !s.percent

def isSchemeChar (c : Char) : Bool := c.isAlphanum || c == '+' || c == '-' || c == '.'

/-- The scheme before `://`, if the text starts with one. -/
def splitScheme (cs : List Char) : Option (List Char × List Char) :=
  let scheme := cs.takeWhile isSchemeChar
  match cs.drop scheme.length with
  | ':' :: '/' :: '/' :: rest => if scheme.length ≤ 64 then some (scheme, rest) else none
  | _ => none

/-- The schemes of the web are written in lower case; others stay as they are. -/
def schemeName (scheme : String) : String :=
  let lower := Text.lower scheme
  if lower = "http" ∨ lower = "https" then lower else scheme

def parse? (s : String) : Option Uri :=
  let cs := s.toList
  if s.utf8ByteSize > maxLength then none
  else match cs with
  | [] => none
  | ['*'] => some ⟨none, "", "*", none⟩
  | '/' :: _ => do
    let (path, query) ← pathAndQuery cs
    return ⟨none, "", path, query⟩
  | _ =>
    match splitScheme cs with
    | none => if isAuthority cs then some ⟨none, s, "", none⟩ else none
    | some (scheme, rest) =>
      let authority := rest.takeWhile fun c => c ≠ '/' ∧ c ≠ '?' ∧ c ≠ '#'
      if authority.isEmpty || !isAuthority authority then none
      else do
        let (path, query) ← pathAndQuery (rest.drop authority.length)
        return ⟨some (schemeName (String.ofList scheme)), String.ofList authority, path, query⟩

/-- The path: that of an absolute URI is never empty. -/
def path (u : Uri) : String :=
  if u.rawPath = "" ∧ (u.scheme.isSome ∨ u.query.isSome) then "/" else u.rawPath

def text (u : Uri) : String :=
  let lead := match u.scheme with
    | some scheme => scheme ++ "://"
    | none => ""
  let query := match u.query with
    | some query => "?" ++ query
    | none => ""
  lead ++ u.authority ++ u.path ++ query

end Uri

end Conduit
