import Conduit.Hex
import Conduit.Toml.Basic

/-!
Strings in TOML: between double marks with escapes or single marks without, on one line or, between
three marks, on several. Readers take a string from the front of the text, after its opening marks,
and give the rest.
-/

namespace Conduit.Toml

abbrev Front (α : Type) := List Char → Option (α × List Char)

/-- The characters that may stand for themselves: no controls but tabs. -/
def isShown (c : Char) : Bool := c == '\t' || (0x20 ≤ c.toNat && c.toNat ≠ 0x7F)

/-- So many hexadecimal digits that are the code of a character. -/
def charOfHex? (digits : List Char) : Option Char := do
  let values ← digits.mapM fun c => Hex.value? c.toNat
  let n := values.foldl (fun n v => n * 16 + v) 0
  if n < 0xD800 ∨ (0xE000 ≤ n ∧ n < 0x110000) then some (Char.ofNat n) else none

/-- The character of an escape and the number of characters it takes, after its backslash. -/
def escape? (cs : List Char) : Option (Char × Nat) :=
  match cs with
  | 'b' :: _ => some ('\x08', 1)
  | 't' :: _ => some ('\t', 1)
  | 'n' :: _ => some ('\n', 1)
  | 'f' :: _ => some ('\x0c', 1)
  | 'r' :: _ => some ('\r', 1)
  | '"' :: _ => some ('"', 1)
  | '\\' :: _ => some ('\\', 1)
  | 'u' :: rest =>
    if rest.length < 4 then none else (charOfHex? (rest.take 4)).map fun c => (c, 5)
  | 'U' :: rest =>
    if rest.length < 8 then none else (charOfHex? (rest.take 8)).map fun c => (c, 9)
  | _ => none

/-- A string on one line between double marks. -/
def basicString (read : List Char) (cs : List Char) : Option (String × List Char) :=
  match cs with
  | [] => none
  | c :: rest =>
    if c = '"' then some (String.ofList read.reverse, rest)
    else if c = '\\' then
      match escape? rest with
      | some (d, n) => basicString (d :: read) (rest.drop n)
      | none => none
    else if isShown c then basicString (c :: read) rest
    else none
  termination_by cs.length
  decreasing_by all_goals (simp [List.length_drop]; try omega)

/-- A string on one line between single marks. -/
def literalString : Front String := fun cs =>
  let inside := cs.takeWhile fun c => c ≠ '\'' ∧ isShown c
  match cs.drop inside.length with
  | '\'' :: rest => some (String.ofList inside, rest)
  | _ => none

/-- A line end, which is one character or two. -/
def lineEnd? (cs : List Char) : Option (List Char) :=
  match cs with
  | '\n' :: rest => some rest
  | '\r' :: '\n' :: rest => some rest
  | _ => none

/-- Passes blanks and line ends. -/
def skipBlankLines (cs : List Char) : List Char :=
  match cs with
  | ' ' :: rest => skipBlankLines rest
  | '\t' :: rest => skipBlankLines rest
  | '\n' :: rest => skipBlankLines rest
  | '\r' :: '\n' :: rest => skipBlankLines rest
  | cs => cs

theorem length_skipBlankLines_le (cs : List Char) : (skipBlankLines cs).length ≤ cs.length := by
  fun_induction skipBlankLines cs <;> simp only [List.length_cons, Nat.le_refl] <;> omega

/-- A backslash at the end of a line hides everything up to the next character that is no blank. -/
def hiddenBreak? (cs : List Char) : Option (List Char) :=
  let blanks := cs.takeWhile fun c => c = ' ' ∨ c = '\t'
  (lineEnd? (cs.drop blanks.length)).map skipBlankLines

theorem length_lineEnd?_lt {cs rest : List Char} (h : lineEnd? cs = some rest) :
    rest.length < cs.length := by
  unfold lineEnd? at h
  split at h <;> cases h <;> simp only [List.length_cons] <;> omega

theorem length_hiddenBreak?_lt {cs rest : List Char} (h : hiddenBreak? cs = some rest) :
    rest.length < cs.length := by
  unfold hiddenBreak? at h
  obtain ⟨after, hafter, rfl⟩ := Option.map_eq_some_iff.1 h
  have h1 := length_lineEnd?_lt hafter
  have h2 := length_skipBlankLines_le after
  simp [List.length_drop] at h1
  omega

/-- A string on several lines, between three marks. The last five marks in a row are two of the
string and its end. -/
def longString (mark : Char) (escapes : Bool) (read : List Char) (cs : List Char) :
    Option (String × List Char) :=
  match cs with
  | [] => none
  | c :: rest =>
    if c = mark then
      match rest with
      | a :: b :: more =>
        if a = mark ∧ b = mark then
          let extra := (more.take 2).takeWhile (· = mark)
          some (String.ofList (read.reverse ++ extra), more.drop extra.length)
        else longString mark escapes (c :: read) (a :: b :: more)
      | _ => none
    else if escapes && c = '\\' then
      match _h : hiddenBreak? rest with
      | some more => longString mark escapes read more
      | none =>
        match escape? rest with
        | some (d, n) => longString mark escapes (d :: read) (rest.drop n)
        | none => none
    else if c = '\n' then longString mark escapes ('\n' :: read) rest
    else if c = '\r' then
      match rest with
      | '\n' :: more => longString mark escapes ('\n' :: read) more
      | _ => none
    else if isShown c then longString mark escapes (c :: read) rest
    else none
  termination_by cs.length
  decreasing_by
    all_goals first
      | (have shorter := length_hiddenBreak?_lt _h; simp only [List.length_cons]; omega)
      | (simp only [List.length_cons, List.length_drop]; omega)

/-- A string on several lines; a line end right after the opening marks is not part of it. -/
def longStringBody (mark : Char) (escapes : Bool) : Front String := fun cs =>
  longString mark escapes [] ((lineEnd? cs).getD cs)

/-- A string of either kind with its marks; on one line only, if so wanted. -/
def quotedString (oneLine : Bool) : Front String := fun cs =>
  match cs with
  | '"' :: '"' :: '"' :: rest =>
    if oneLine then some ("", '"' :: rest) else longStringBody '"' true rest
  | '\'' :: '\'' :: '\'' :: rest =>
    if oneLine then some ("", '\'' :: rest) else longStringBody '\'' false rest
  | '"' :: rest => basicString [] rest
  | '\'' :: rest => literalString rest
  | _ => none

end Conduit.Toml
