import Conduit.CommandLine

/-!
The program: reads what the command line may need from the process and its directory, and ends as
the command line says. Listening is left to the transport that the routes are given to.
-/

namespace Conduit.CommandLine

/-- The words of a text that can be names of variables. -/
def words (text : String) : List String :=
  ((text.toList.splitOnP fun c => !(c.isAlphanum || c = '_')).map String.ofList).filter (· ≠ "")

/-- The variables that settings are overridden by. -/
def settingNames : List String := Setting.all.map fun s => s!"{lead}_{s.name}"

/-- The files that a command may read. -/
def paths : Command → List String
  | .start o => [o.config.getD standardFile, Loader.dotenvFile]
  | _ => []

def readEntry (path : String) : IO (Option FileEntry) := do
  try
    return some (.content (← IO.FS.readBinFile path).toList)
  catch
    | .noFileOrDirectory .. => return none
    | _ => return some .directory

def readFiles (paths : List String) : IO Files := do
  let entries ← paths.mapM fun path => return (path, ← readEntry path)
  return fun path => (entries.lookup path).join

def readVariables (names : List String) : IO Environment := do
  let found ← names.mapM fun name => return (← IO.getEnv name).map (name, ·)
  return ⟨found.filterMap id⟩

/-- The words of the file of variables, which may name other variables. -/
def dotenvWords (files : Files) : List String :=
  match files Loader.dotenvFile with
  | some (.content bytes) => words (Utf8.decodeLenient bytes)
  | _ => []

end Conduit.CommandLine

open Conduit CommandLine in
def main (arguments : List String) : IO UInt32 := do
  let files ← readFiles (paths (.parse .standard arguments))
  let env ← readVariables (settingNames ++ dotenvWords files)
  match run arguments files env with
  | .exit e =>
    IO.print e.stdout
    IO.eprint e.stderr
    return UInt32.ofNat e.code
  | .serve .. => return 0
