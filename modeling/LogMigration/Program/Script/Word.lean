import LogMigration.Text.WhiteSpace

/-!
# Words of a script

A word is made of literal text and of expansions: the value of a parameter, the value of an
arithmetic expression, the output of commands.  What stands inside an expansion is kept as it was
written and read when the word is expanded.

* `Script.readWord` — the word at the start of a text.
* `Script.readQuoted` — text in double quotes.
-/

set_option autoImplicit false

namespace LogMigration

namespace Script

/-- What is done with the value of a parameter.  With a colon, an empty value counts as none. -/
inductive Change where
  | keep
  | length
  /-- A word in the place of a missing value. -/
  | fallback (colon : Bool) (word : Text)
  /-- The same, and the parameter is set to it. -/
  | assign (colon : Bool) (word : Text)
  /-- A word in the place of a value that is there. -/
  | alternative (colon : Bool) (word : Text)
  /-- A missing value ends the script. -/
  | required (colon : Bool) (word : Text)
  | dropStart (longest : Bool) (pattern : Text)
  | dropEnd (longest : Bool) (pattern : Text)
  deriving DecidableEq, Repr

/-- A part of a word.  What an unquoted expansion gives is divided into fields. -/
inductive Part where
  | literal (s : Text) (quoted : Bool)
  | parameter (name : Text) (change : Change) (quoted : Bool)
  | arithmetic (expression : Text) (quoted : Bool)
  | command (source : Text) (quoted : Bool)
  /-- An expansion that makes no sense. -/
  | bad
  deriving DecidableEq, Repr

/-- A word: its parts.  A quoted empty text is a part too. -/
abbrev Word := List Part

def isNameStart (c : Char) : Bool := c.isAlpha || c = '_'

def isNameChar (c : Char) : Bool := c.isAlphanum || c = '_'

def endsWord (c : Char) : Bool :=
  c = ' ' || c = '\t' || c = '\n' || c = ';' || c = '&' || c = '|' || c = '<' || c = '>' || c = '('
    || c = ')'

/-- Whether a character is the name of a parameter that is always there. -/
def isSpecial (c : Char) : Bool :=
  c = '$' || c = '#' || c = '?' || c = '@' || c = '*' || c = '!' || c = '-'

/-- What stands before the mark that closes the innermost of some open marks, and then all the
others, and what follows the last one.  Quotes and nested expansions are passed over. -/
def balanced : List Char → Text → Option (Text × Text)
  | [], s => some ([], s)
  | _ :: _, [] => none
  | mark :: marks, c :: rest =>
    let keep (cs : Text) (r : Option (Text × Text)) : Option (Text × Text) :=
      r.map fun (inner, rest) => (cs ++ inner, rest)
    if c = mark then keep (if marks = [] then [] else [c]) (balanced marks rest)
    else if mark = '\x27' then keep [c] (balanced (mark :: marks) rest)
    else
      match c, rest with
      | '\\', d :: rest => keep [c, d] (balanced (mark :: marks) rest)
      | '$', '(' :: rest => keep ['$', '('] (balanced (')' :: mark :: marks) rest)
      | '$', '\x7b' :: rest => keep ['$', '\x7b'] (balanced ('\x7d' :: mark :: marks) rest)
      | '"', rest => keep ['"'] (balanced ('"' :: mark :: marks) rest)
      | '\x27', rest =>
        let inner := if mark = '"' then mark :: marks else '\x27' :: mark :: marks
        keep ['\x27'] (balanced inner rest)
      | '(', rest =>
        keep ['('] (balanced (if mark = ')' then ')' :: mark :: marks else mark :: marks) rest)
      | c, rest => keep [c] (balanced (mark :: marks) rest)
  termination_by _ s => s.length
  decreasing_by all_goals (simp_all +arith)

/-- The name at the start of what stands between braces, and what follows it. -/
def parameterName (s : Text) : Text × Text :=
  match s with
  | [] => ([], [])
  | c :: rest =>
    if isNameStart c then (c :: rest.takeWhile isNameChar, rest.dropWhile isNameChar)
    else if c.isDigit then (c :: rest.takeWhile Char.isDigit, rest.dropWhile Char.isDigit)
    else if isSpecial c then ([c], rest)
    else ([], s)

/-- What follows a name between braces. -/
def changeOf : Text → Option Change
  | [] => some .keep
  | ':' :: '-' :: w => some (.fallback true w)
  | ':' :: '=' :: w => some (.assign true w)
  | ':' :: '+' :: w => some (.alternative true w)
  | ':' :: '?' :: w => some (.required true w)
  | '-' :: w => some (.fallback false w)
  | '=' :: w => some (.assign false w)
  | '+' :: w => some (.alternative false w)
  | '?' :: w => some (.required false w)
  | '#' :: '#' :: p => some (.dropStart true p)
  | '#' :: p => some (.dropStart false p)
  | '%' :: '%' :: p => some (.dropEnd true p)
  | '%' :: p => some (.dropEnd false p)
  | _ => none

/-- The expansion in braces. -/
def bracedPart (quoted : Bool) (inner : Text) : Part :=
  let measured := match inner with
    | '#' :: c :: rest =>
      let n := parameterName (c :: rest)
      if n.1 ≠ [] && n.2 = [] then some n.1 else none
    | _ => none
  match measured with
  | some name => .parameter name .length quoted
  | none =>
    let n := parameterName inner
    if n.1 = [] then .bad
    else
      match changeOf n.2 with
      | some change => .parameter n.1 change quoted
      | none => .bad

/-- The expansion in round brackets: arithmetic in two pairs, commands in one. -/
def bracketPart (quoted : Bool) (inner : Text) : Part :=
  match inner, inner.getLast? with
  | '(' :: rest, some ')' => .arithmetic rest.dropLast quoted
  | _, _ => .command inner quoted

/-- The expansion after a dollar, and what follows it; nothing if a bracket is not closed.  A dollar
that begins no expansion is itself. -/
def readExpansion (quoted : Bool) (s : Text) : Option (Part × Text) :=
  match s with
  | '(' :: rest => (balanced [')'] rest).map fun (inner, rest) => (bracketPart quoted inner, rest)
  | '\x7b' :: rest =>
    (balanced ['\x7d'] rest).map fun (inner, rest) => (bracedPart quoted inner, rest)
  | c :: rest =>
    if isNameStart c then
      some (.parameter (c :: rest.takeWhile isNameChar) .keep quoted, rest.dropWhile isNameChar)
    else if c.isDigit || isSpecial c then some (.parameter [c] .keep quoted, rest)
    else some (.literal ['$'] quoted, s)
  | [] => some (.literal ['$'] quoted, [])

/-- The commands up to a backquote, and what follows it. -/
def readBackquoted : Text → Option (Text × Text)
  | [] => none
  | '\x60' :: rest => some ([], rest)
  | '\\' :: c :: rest =>
    let kept := if c = '\x60' || c = '\\' || c = '$' then [c] else ['\\', c]
    (readBackquoted rest).map fun (inner, rest) => (kept ++ inner, rest)
  | c :: rest => (readBackquoted rest).map fun (inner, rest) => (c :: inner, rest)

/-- A word with one more part in front.  Quoted text joins quoted text that follows it. -/
def Part.before : Part → Word → Word
  | .literal s true, .literal t true :: w => .literal (s ++ t) true :: w
  | p, w => p :: w

/-- The parts of quoted text up to a mark, and what follows it; without a mark, of all of it. -/
def readQuoted (mark : Option Char) : Nat → Text → Option (Word × Text)
  | 0, _ => none
  | fuel + 1, s =>
    let more (part : Part) (rest : Text) : Option (Word × Text) :=
      (readQuoted mark fuel rest).map fun (w, rest) => (part.before w, rest)
    match s with
    | [] => if mark.isNone then some ([], []) else none
    | '\\' :: c :: rest =>
      if c = '\n' then readQuoted mark fuel rest
      else if c = '$' || c = '\\' || c = '\x60' || some c = mark then more (.literal [c] true) rest
      else more (.literal ['\\', c] true) rest
    | '$' :: rest => (readExpansion true rest).bind fun (part, rest) => more part rest
    | '\x60' :: rest =>
      (readBackquoted rest).bind fun (inner, rest) => more (.command inner true) rest
    | c :: rest => if some c = mark then some ([], rest) else more (.literal [c] true) rest

/-- A word, and what follows it.  One that is a whole text is not ended by blanks or marks. -/
def readWord (whole : Bool) : Nat → Text → Option (Word × Text)
  | 0, _ => none
  | fuel + 1, s =>
    let more (parts : Word) (rest : Text) : Option (Word × Text) :=
      (readWord whole fuel rest).map fun (w, rest) => (parts ++ w, rest)
    match s with
    | [] => some ([], [])
    | '\x27' :: rest =>
      match rest.dropWhile (· ≠ '\x27') with
      | [] => none
      | _ :: after => more [.literal (rest.takeWhile (· ≠ '\x27')) true] after
    | '"' :: rest =>
      (readQuoted (some '"') (s.length + 1) rest).bind fun (inner, rest) =>
        more (.literal [] true :: inner) rest
    | '\\' :: c :: rest => more (if c = '\n' then [] else [.literal [c] true]) rest
    | '$' :: rest => (readExpansion false rest).bind fun (part, rest) => more [part] rest
    | '\x60' :: rest =>
      (readBackquoted rest).bind fun (inner, rest) => more [.command inner false] rest
    | c :: rest =>
      if endsWord c && !whole then some ([], s) else more [.literal [c] false] rest

/-- The word that a whole text is; text that cannot be read stands for itself. -/
def wholeWord (s : Text) : Word :=
  match readWord true (s.length + 1) s with
  | some (w, _) => w
  | none => [.literal s true]

/-- The quoted word that a whole text is. -/
def wholeQuoted (s : Text) : Word :=
  match readQuoted none (s.length + 1) s with
  | some (w, _) => w
  | none => [.literal s true]

/-- The text of a word without quotes and expansions. -/
def bare? : Word → Option Text
  | [] => some []
  | .literal s false :: w => (bare? w).map (s ++ ·)
  | _ => none

end Script

end LogMigration
