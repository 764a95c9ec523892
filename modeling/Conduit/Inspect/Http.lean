import Conduit.Hex
import Conduit.Http.Response

/-!
Responses as JSON, to be looked at: header lines in the order of their names, and whatever is not
text as hexadecimal digits after `hex:`.
-/

namespace Conduit

def Json.textPairs (ps : List (String × String)) : Json :=
  .arr (ps.map fun (a, b) => .strings [a, b])

namespace Headers

def shownValue (value : Bytes) : String := (Header.text? value).getD ("hex:" ++ Hex.encode value)

def toJson (h : Headers) : Json :=
  let sorted := h.lines.mergeSort fun a b => a.1 ≤ b.1
  .textPairs (sorted.map fun (name, value) => (name, shownValue value))

end Headers

namespace Response

/-- What comes before the body. -/
def headMembers (r : Response) : List (String × Json) :=
  [("status", .nat r.status.code), ("headers", r.headers.toJson)]

def members (r : Response) : List (String × Json) :=
  ("body", .str ((Utf8.decode? r.body).getD ("hex:" ++ Hex.encode r.body))) :: r.headMembers

def toJson (r : Response) : Json := .object r.members

def headJson (r : Response) : Json := .object r.headMembers

end Response

end Conduit
