import Conduit.Decimal.Reader
import Conduit.Logging.Settings
import Conduit.Power
import Conduit.Text.Alphanumeric

/-!
Filter directives: `target[span{field=value}]=level`, each part of which may be left out, in a list with
commas. A directive is read character by character.
-/

namespace Conduit.LogFilter

inductive DirectiveFault
  | malformed
  | badLevel
  deriving DecidableEq, Repr

def DirectiveFault.message : DirectiveFault → String
  | malformed => "invalid filter directive"
  | badLevel => "error parsing level filter: expected one of \"off\", \"error\", \"warn\", "
      ++ "\"info\", \"debug\", \"trace\", or a number 0-5"

/-- Levels are words in any case, or numbers up to five. A level may be left out. -/
def isLevel (s : String) : Bool :=
  ["", "off", "error", "warn", "info", "debug", "trace"].contains (Text.lower s)
    || match Decimal.readInt 0 (Int.ofNat maxWord) s with
      | .ok n => n ≤ 5
      | .error _ => false

/-- What has been read of a directive. -/
inductive Reading
  | start
  /-- A target, or a level that stands alone. -/
  | levelOrTarget
  | span
  /-- A field, and whether anything of it has been read. -/
  | field (begun : Bool)
  | afterFields
  | afterSpan
  /-- A level that starts at this byte of the directive. -/
  | level (start : Nat)
  deriving DecidableEq, Repr

/-- Takes the character at a place. -/
def step (place : Nat) (c : Char) : Reading → Option Reading
  | .start =>
    if c = '[' then some .span
    else if c = '-' || c = ':' || c = '_' || Text.isAlphanumeric c then some .levelOrTarget
    else none
  | .levelOrTarget =>
    if c = '=' then some (.level (place + 1))
    else if c = '[' then some .span
    else some .levelOrTarget
  | .span =>
    if c = ']' then some .afterSpan
    else if c = '\x7b' then some (.field false)
    else some .span
  | .field begun =>
    if c = '\x7d' then if begun then some .afterFields else none
    else some (.field true)
  | .afterFields => if c = ']' then some .afterSpan else none
  | .afterSpan => if c = '=' then some (.level (place + 1)) else none
  | .level start => some (.level start)

def read : Nat → List Char → Reading → Option Reading
  | _, [], r => some r
  | place, c :: rest, r => (step place c r).bind (read (place + c.utf8Size) rest)

/-- The text from a byte on. -/
def fromByte : Nat → List Char → List Char
  | 0, cs => cs
  | _, [] => []
  | n + 1, c :: rest => fromByte (n + 1 - c.utf8Size) rest

/-- Judges one directive. Blanks before it are passed, but places are counted without them in the
text that still has them. -/
def checkDirective (s : String) : Except DirectiveFault Unit :=
  match read 0 (Text.trimList s.toList) .start with
  | some .levelOrTarget | some .afterSpan => .ok ()
  | some (.level start) =>
    if isLevel (String.ofList (fromByte start s.toList)) then .ok () else .error .badLevel
  | _ => .error .malformed

/-- Judges every directive of a list; without any, nothing is filtered. -/
def check (directives : String) : Except LoggingFault Unit :=
  if directives = "" then .ok ()
  else match (Text.splitAt ',' directives).mapM checkDirective with
    | .ok _ => .ok ()
    | .error fault => .error (.badDirective directives fault.message)

end Conduit.LogFilter

namespace Conduit

/-- Logging starts unless its directives are refused; it need not start if it is not enabled. -/
def LogSettings.start (s : LogSettings) : Except LoggingFault Unit :=
  if s.enabled then LogFilter.check s.level else .ok ()

end Conduit
