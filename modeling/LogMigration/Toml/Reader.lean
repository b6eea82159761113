import LogMigration.Text.Basic

/-!
# Readers

A reader takes something from the front of a text, or fails.  It knows the size of the whole
document, which bounds every repetition.  This module holds the readers for blanks, line ends and
comments of a configuration document.
-/

set_option autoImplicit false

namespace LogMigration

namespace Toml

/-- Takes a value from the front of a text, given the size of the document. -/
abbrev Reader := ReaderT Nat (StateT Text Option)

namespace Reader

/-- The size of the document: more than the characters that are left. -/
def size : Reader Nat := fun n s => some (n, s)

/-- The rest of the text. -/
def rest : Reader Text := fun _ s => some (s, s)

/-- The next character, without taking it. -/
def peek? : Reader (Option Char) := fun _ s => some (s.head?, s)

/-- Takes a literal. -/
def literal (p : Text) : Reader Unit := fun _ s => (Text.dropPrefix? p s).map fun r => ((), r)

/-- Takes a literal if it is there, and says whether it was. -/
def optional (p : Text) : Reader Bool := fun _ s =>
  match Text.dropPrefix? p s with
  | some r => some (true, r)
  | none => some (false, s)

/-- Takes characters as long as they pass. -/
def run (p : Char → Bool) : Reader Text := fun _ s => some (s.takeWhile p, s.dropWhile p)

/-- Takes at least one character that passes. -/
def run1 (p : Char → Bool) : Reader Text := fun _ s =>
  if s.takeWhile p = [] then none else some (s.takeWhile p, s.dropWhile p)

/-- Takes exactly `n` characters that pass. -/
def exactly (n : Nat) (p : Char → Bool) : Reader Text := fun _ s =>
  if (s.take n).length = n && (s.take n).all p then some (s.take n, s.drop n) else none

/-- Tries one reader and, if it fails, another one at the same place. -/
def orElse {α : Type} (a b : Reader α) : Reader α := fun n s =>
  match a n s with
  | some r => some r
  | none => b n s

/-- Tries a reader and gives nothing, at the same place, if it fails. -/
def attempt {α : Type} (a : Reader α) : Reader (Option α) := fun n s =>
  match a n s with
  | some (x, r) => some (some x, r)
  | none => some (none, s)

/-- Fails. -/
def fail {α : Type} : Reader α := fun _ _ => none

/-- Whether a character may stand in a number, a date or a time. -/
def isSpelling (c : Char) : Bool :=
  c.isAlphanum || c = '+' || c = '-' || c = '_' || c = '.' || c = ':' || c = ' '

/-- The spelling of what a reader takes, beside its value.  The reader may take only what a number, a
date or a time is spelled with. -/
def spelled {α : Type} (a : Reader α) : Reader (Text × α) := fun n s =>
  (a n s).map fun (x, r) =>
    let before := s.takeWhile isSpelling
    ((before.take (before.length - (r.takeWhile isSpelling).length), x), r)

/-! ## Blanks and lines -/

/-- Whether a character is a blank inside a line. -/
def isBlank (c : Char) : Bool := c = ' ' || c = '\t'

/-- Whether a character may stand in a comment. -/
def isCommentChar (c : Char) : Bool := c = '\t' || (0x20 ≤ c.toNat && c.toNat ≠ 0x7F)

/-- Takes blanks. -/
def blanks : Reader Unit := do
  let _ ← run isBlank

/-- Takes a line end. -/
def newline : Reader Unit := orElse (literal ['\n']) (literal ['\r', '\n'])

/-- Takes a comment up to the end of its line, if there is one. -/
def comment : Reader Unit := do
  if ← optional ['#'] then
    let _ ← run isCommentChar

/-- Takes the rest of a line: blanks, a comment, and the line end or the end of the text. -/
def endOfLine : Reader Unit := do
  blanks
  comment
  match ← peek? with
  | none => pure ()
  | some _ => newline

/-- Takes blanks, line ends, and comments that a line end follows; `fuel` bounds the lines. -/
def blankLinesFuel : Nat → Reader Unit
  | 0 => blanks
  | fuel + 1 => do
    blanks
    match ← attempt (do comment; newline) with
    | some () => blankLinesFuel fuel
    | none => pure ()

/-- Takes blanks, line ends and comments inside an array. -/
def blankLines : Reader Unit := do blankLinesFuel (← size)

end Reader

end Toml

end LogMigration
