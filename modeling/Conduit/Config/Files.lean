import Conduit.Text
import Conduit.Utf8

/-!
The files that a configuration can be read from.
-/

namespace Conduit

/-- What a path leads to. -/
inductive FileEntry
  | directory
  | content (bytes : Bytes)
  deriving DecidableEq, Repr, Inhabited

/-- What each path leads to, if it leads anywhere. -/
abbrev Files := String → Option FileEntry

namespace Files

/-- The names that a relative path goes through; empty ones and dots lead nowhere else. -/
def names (path : String) : List String := (Text.pathSegments path).filter (· ≠ ".")

/-- Whether a path asks for a directory by its end. -/
def asksDirectory (path : String) : Bool :=
  match (Text.splitAt '/' path).reverse with
  | last :: _ :: _ => last = "" || last = "."
  | _ => false

/-- What some names lead to from a directory with these entries, each under its path. -/
def entryAt (entries : List (String × FileEntry)) (route : List String) : Option FileEntry :=
  match entries.find? fun (path, _) => names path = route with
  | some (_, entry) => some entry
  | none =>
    if route = [] ∨ entries.any fun (path, _) => route.isPrefixOf (names path) then
      some .directory
    else none

/-- The files of a directory, given by their paths in it. Paths from a root lead nowhere. -/
def ofEntries (entries : List (String × FileEntry)) : Files := fun path =>
  if path = "" ∨ Text.startsWith "/" path then none
  else match entryAt entries (names path) with
    | some (.content bytes) => if asksDirectory path then none else some (.content bytes)
    | entry => entry

end Files

end Conduit
