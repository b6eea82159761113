import LogMigration.Program.Script.Word

/-!
# Tokens of a script

The words and operators of a script, each with the line it stands on.  Text that follows the line of
a command as its input is read together with the operator that asks for it.

* `Script.tokens` — the tokens of a script.
-/

set_option autoImplicit false

namespace LogMigration

namespace Script

/-- How a file is used by a command. -/
inductive Direction where
  /-- `<` -/
  | input
  /-- `>` -/
  | output
  /-- `>>` -/
  | append
  /-- `>&` or `<&`: what another descriptor is -/
  | duplicate
  deriving DecidableEq, Repr

/-- The words and operators of a script. -/
inductive Token where
  | word (w : Word)
  | newline
  | semicolon
  /-- `;;` -/
  | branchEnd
  /-- `&&` -/
  | andThen
  /-- `||` -/
  | orElse
  /-- `&` -/
  | background
  /-- `|` -/
  | bar
  /-- `(` -/
  | opening
  /-- `)` -/
  | closing
  | redirect (descriptor : Nat) (direction : Direction)
  /-- Input that stands in the script itself. -/
  | here (descriptor : Nat) (body : Word)
  /-- Text that cannot be read. -/
  | broken (message : String)
  deriving DecidableEq, Repr

/-- The tokens that are left, each with its line. -/
abbrev Tokens := List (Nat × Token)

/-- An operator at the start of a text, and what follows it. -/
def operator? : Text → Option (Token × Text)
  | '\n' :: r => some (.newline, r)
  | ';' :: ';' :: r => some (.branchEnd, r)
  | ';' :: r => some (.semicolon, r)
  | '&' :: '&' :: r => some (.andThen, r)
  | '&' :: r => some (.background, r)
  | '|' :: '|' :: r => some (.orElse, r)
  | '|' :: r => some (.bar, r)
  | '(' :: r => some (.opening, r)
  | ')' :: r => some (.closing, r)
  | _ => none

/-- A redirection at the start of a text, and what follows it. -/
def redirection? (descriptor : Option Nat) : Text → Option (Token × Text)
  | '<' :: '&' :: r => some (.redirect (descriptor.getD 0) .duplicate, r)
  | '<' :: r => some (.redirect (descriptor.getD 0) .input, r)
  | '>' :: '&' :: r => some (.redirect (descriptor.getD 1) .duplicate, r)
  | '>' :: '>' :: r => some (.redirect (descriptor.getD 1) .append, r)
  | '>' :: '|' :: r => some (.redirect (descriptor.getD 1) .output, r)
  | '>' :: r => some (.redirect (descriptor.getD 1) .output, r)
  | _ => none

/-- The lines up to one that is the given text, and what follows it. -/
def hereLines (tabs : Bool) (delimiter : Text) : Nat → Text → List Text × Text
  | 0, s => ([], s)
  | fuel + 1, s =>
    if s = [] then ([], [])
    else
      let line := s.takeWhile (· ≠ '\n')
      let rest := (s.dropWhile (· ≠ '\n')).drop 1
      let line := if tabs then line.dropWhile (· = '\t') else line
      if line = delimiter then ([], rest)
      else
        let more := hereLines tabs delimiter fuel rest
        (line :: more.1, more.2)

/-- The text that a delimiter means, and whether some of it is quoted. -/
def delimiterOf (w : Word) : Text × Bool :=
  (w.flatMap fun
    | .literal s _ => s
    | .parameter name _ _ => '$' :: name
    | _ => [],
    w.any fun
    | .literal _ quoted => quoted
    | _ => false)

/-- Input in the script after `<<`: the token, and the script without it. -/
def hereDocument? (descriptor : Nat) (s : Text) : Option (Token × Text × Nat) :=
  let tabs := s.head? = some '-'
  let s := if tabs then s.drop 1 else s
  let s := s.dropWhile fun c => c = ' ' || c = '\t'
  match readWord false (s.length + 1) s with
  | none | some ([], _) => none
  | some (w, rest) =>
    let delimiter := delimiterOf w
    let after := (rest.dropWhile (· ≠ '\n')).drop 1
    let body := hereLines tabs delimiter.1 (after.length + 1) after
    let text := body.1.flatMap (· ++ ['\n'])
    some (.here descriptor (if delimiter.2 then [.literal text true] else wholeQuoted text),
      rest.takeWhile (· ≠ '\n') ++ '\n' :: body.2, body.1.length + 1)

/-- The redirection at the start of a text with its descriptor, what follows it, and the number of
lines that were taken out of what follows. -/
def redirectionAt? (s : Text) : Option (Token × Text × Nat) :=
  let (descriptor, rest) := match s with
    | c :: '<' :: r => if c.isDigit then (some (c.toNat - '0'.toNat), '<' :: r) else (none, s)
    | c :: '>' :: r => if c.isDigit then (some (c.toNat - '0'.toNat), '>' :: r) else (none, s)
    | _ => (none, s)
  match rest with
  | '<' :: '<' :: r => hereDocument? (descriptor.getD 0) r
  | _ => (redirection? descriptor rest).map fun (t, r) => (t, r, 0)

/-- The tokens of a text.  Lines that a command takes as its input are counted when its own line
ends. -/
def tokensFrom : Nat → Nat → Nat → Text → Tokens
  | 0, _, _, _ => []
  | fuel + 1, line, taken, s =>
    match s with
    | [] => []
    | ' ' :: rest | '\t' :: rest => tokensFrom fuel line taken rest
    | '\\' :: '\n' :: rest => tokensFrom fuel (line + 1) taken rest
    | '#' :: rest => tokensFrom fuel line taken (rest.dropWhile (· ≠ '\n'))
    | _ =>
      match operator? s, redirectionAt? s with
      | some (.newline, rest), _ => (line, .newline) :: tokensFrom fuel (line + 1 + taken) 0 rest
      | some (t, rest), _ => (line, t) :: tokensFrom fuel line taken rest
      | none, some (t, rest, lines) => (line, t) :: tokensFrom fuel line (taken + lines) rest
      | none, none =>
        match readWord false (s.length + 1) s with
        | none => [(line, .broken "Unterminated quoted string")]
        | some (w, rest) =>
          let lines := (s.take (s.length - rest.length)).count '\n'
          (line, .word w) :: tokensFrom fuel (line + lines) taken rest

def tokens (s : Text) : Tokens := tokensFrom (s.length + 1) 1 0 s

end Script

end LogMigration
