/-!
Text as the library reads it: blanks, ASCII case, splitting at a separator and joining. Each
function on `String` is a function on its list of characters.
-/

namespace Conduit.Text

/-- The characters with Unicode's `White_Space` property. -/
def isBlank (c : Char) : Bool :=
  let n := c.toNat
  (9 ≤ n && n ≤ 13) || n == 0x20 || n == 0x85 || n == 0xA0 || n == 0x1680
    || (0x2000 ≤ n && n ≤ 0x200A) || n == 0x2028 || n == 0x2029 || n == 0x202F
    || n == 0x205F || n == 0x3000

def dropEndWhile (p : Char → Bool) (cs : List Char) : List Char :=
  (cs.reverse.dropWhile p).reverse

def trimList (cs : List Char) : List Char :=
  dropEndWhile isBlank (cs.dropWhile isBlank)

/-- Removes blanks from both ends. -/
def trim (s : String) : String :=
  String.ofList (trimList s.toList)

def trimStartOf (c : Char) (s : String) : String :=
  String.ofList (s.toList.dropWhile (· == c))

def trimEndOf (c : Char) (s : String) : String :=
  String.ofList (dropEndWhile (· == c) s.toList)

/-- The pieces between separators, empty ones included. -/
def splitAt (sep : Char) (s : String) : List String :=
  (s.toList.splitOn sep).map String.ofList

/-- What stands before and after the first separator, if there is one. -/
def splitFirstList (sep : Char) : List Char → Option (List Char × List Char)
  | [] => none
  | c :: cs =>
    if c = sep then some ([], cs)
    else (splitFirstList sep cs).map fun (before, after) => (c :: before, after)

def splitFirst (sep : Char) (s : String) : Option (String × String) :=
  (splitFirstList sep s.toList).map fun (before, after) =>
    (String.ofList before, String.ofList after)

/-- The text after `lead`, if the text starts with it. -/
def stripLead (lead s : String) : Option String :=
  (lead.toList.isPrefixOf? s.toList).map String.ofList

def startsWith (lead s : String) : Bool :=
  lead.toList.isPrefixOf s.toList

/-- Lower case of ASCII letters; every other character stays. -/
def lower (s : String) : String :=
  String.ofList (s.toList.map Char.toLower)

/-- Upper case of ASCII letters; every other character stays. -/
def upper (s : String) : String :=
  String.ofList (s.toList.map Char.toUpper)

def eqIgnoringCase (a b : String) : Bool :=
  lower a == lower b

/-- The items of a list written with commas: trimmed, empty ones dropped. -/
def commaItems (s : String) : List String :=
  ((splitAt ',' s).map trim).filter (· ≠ "")

/-- The non-empty pieces between slashes. -/
def pathSegments (path : String) : List String :=
  (splitAt '/' path).filter (· ≠ "")

def joinWith (sep : String) (parts : List String) : String :=
  sep.intercalate parts

/-- The text between two backquotes, as messages show names. -/
def quoted (s : String) : String :=
  "\x60" ++ s ++ "\x60"

end Conduit.Text
