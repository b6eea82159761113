import LogMigration.Toml.Reader

/-!
# Strings of a configuration document

Strings stand in double quotes, with escapes, or in apostrophes, without; either may be written with
three quotes and then run over several lines.

* `Quoted.short` — a string on one line, which may also be a key.
* `Quoted.any` — any string.
-/

set_option autoImplicit false

namespace LogMigration

namespace Toml

namespace Quoted

open Reader

/-- Whether a character may stand in a string as itself, line ends, quotes and escapes apart. -/
def isPlain (c : Char) : Bool :=
  c = '\t' || (0x20 ≤ c.toNat && c.toNat ≤ 0x7E) || 0x80 ≤ c.toNat

def isHex (c : Char) : Bool :=
  c.isDigit || ('a' ≤ c && c ≤ 'f') || ('A' ≤ c && c ≤ 'F')

def hexValue (c : Char) : Nat :=
  if c.isDigit then c.toNat - '0'.toNat
  else if 'a' ≤ c then c.toNat - 'a'.toNat + 10
  else c.toNat - 'A'.toNat + 10

/-- The character with a number of `n` hexadecimal digits. -/
def numbered (n : Nat) : Reader Char := do
  let digits ← exactly n isHex
  let code := digits.foldl (fun v c => 16 * v + hexValue c) 0
  if code.isValidChar then pure (Char.ofNat code) else fail

/-- What a backslash and what follows it stand for. -/
def escape : Reader Char := fun n s =>
  match s with
  | 'b' :: r => some ('\x08', r)
  | 't' :: r => some ('\t', r)
  | 'n' :: r => some ('\n', r)
  | 'f' :: r => some ('\x0c', r)
  | 'r' :: r => some ('\r', r)
  | '"' :: r => some ('"', r)
  | '\\' :: r => some ('\\', r)
  | 'u' :: r => numbered 4 n r
  | 'U' :: r => numbered 8 n r
  | _ => none

/-- The rest of a string in double quotes on one line. -/
def basicBody : Nat → Reader Text
  | 0 => fail
  | fuel + 1 => fun n s =>
    match s with
    | '"' :: r => some ([], r)
    | '\\' :: r => (do return (← escape) :: (← basicBody fuel)) n r
    | c :: r => if isPlain c then (basicBody fuel n r).map fun (t, r) => (c :: t, r) else none
    | [] => none

/-- The rest of a string in apostrophes on one line. -/
def literalBody : Reader Text := do
  let t ← run fun c => isPlain c && c ≠ '\x27'
  literal ['\x27']
  return t

/-- Takes blanks and line ends; `fuel` bounds the lines. -/
def blankSpace : Nat → Reader Unit
  | 0 => pure ()
  | fuel + 1 => do
    blanks
    match ← attempt newline with
    | some () => blankSpace fuel
    | none => pure ()

/-- The quotes at the end of a string with three quotes: the last three close it, and up to two more
belong to it. -/
def closing? (quote : Char) (s : Text) : Option (Text × Text) :=
  let n := (s.takeWhile (· = quote)).length
  if n < 3 then none
  else some (List.replicate (min n 5 - 3) quote, s.drop (min n 5))

/-- The rest of a string with three quotes. -/
def longBody (quote : Char) (escapes : Bool) : Nat → Reader Text
  | 0 => fail
  | fuel + 1 => fun n s =>
    match closing? quote s with
    | some r => some r
    | none =>
      match s with
      | [] => none
      | '\r' :: '\n' :: r => (longBody quote escapes fuel n r).map fun (t, r) => ('\n' :: t, r)
      | '\n' :: r => (longBody quote escapes fuel n r).map fun (t, r) => ('\n' :: t, r)
      | c :: r =>
        if escapes && c = '\\' then
          match (do blanks; newline; blankSpace n : Reader Unit) n r with
          | some (_, r) => longBody quote escapes fuel n r
          | none => (do return (← escape) :: (← longBody quote escapes fuel)) n r
        else if isPlain c then (longBody quote escapes fuel n r).map fun (t, r) => (c :: t, r)
        else none

/-- A string on one line. -/
def short : Reader Text := fun n s =>
  match s with
  | '"' :: r => basicBody n n r
  | '\x27' :: r => literalBody n r
  | _ => none

/-- A string.  A line end right after three quotes does not belong to it. -/
def any : Reader Text := fun n s =>
  let long (quote : Char) : Text → Option (Text × Text) :=
    (do let _ ← attempt newline
        longBody quote (quote = '"') n : Reader Text) n
  match s with
  | '"' :: '"' :: '"' :: r => long '"' r
  | '\x27' :: '\x27' :: '\x27' :: r => long '\x27' r
  | _ => short n s

end Quoted

end Toml

end LogMigration
