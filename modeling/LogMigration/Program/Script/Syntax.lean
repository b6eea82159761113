import LogMigration.Program.Script.Token

/-!
# Commands of a script

A script is read command by command: what stands on a line, with all that belongs to it, is read
before any of it runs.

* `Script.Command` — what a script is made of.
* `Script.nextCommand` — the next command of a script.
-/

set_option autoImplicit false

namespace LogMigration

namespace Script

/-- Where input comes from or output goes. -/
inductive Redirection where
  | file (descriptor : Nat) (direction : Direction) (target : Word)
  | here (body : Word)
  deriving DecidableEq, Repr

/-- Assignments, words and redirections of a command, and the line it stands on. -/
structure Simple where
  line : Nat
  assignments : List (Text × Word) := []
  words : List Word := []
  redirections : List Redirection := []
  deriving DecidableEq, Repr

/-- The commands of a script. -/
inductive Command where
  | skip
  | simple (s : Simple)
  | seq (first second : Command)
  /-- The second command runs if the first one succeeds. -/
  | both (first second : Command)
  /-- The second command runs if the first one fails. -/
  | either (first second : Command)
  | negated (c : Command)
  /-- The output of the first command is the input of the second. -/
  | pipe (first second : Command)
  | conditional (test yes no : Command)
  /-- The first command runs if the subject fits one of the patterns, and the second otherwise. -/
  | choice (subject : Word) (patterns : List Word) (yes no : Command)
  /-- The body runs as long as the test succeeds, or as long as it fails. -/
  | loop (test body : Command) (whileFailing : Bool)
  /-- The body runs for each field of some words, or for each argument. -/
  | each (name : Text) (words : Option (List Word)) (body : Command)
  /-- A command that runs apart, so that what it sets is forgotten. -/
  | apart (c : Command)
  /-- The same, in the background: it counts as a success. -/
  | background (c : Command)
  | define (name : Text) (body : Command)
  | redirected (line : Nat) (c : Command) (redirections : List Redirection)
  deriving DecidableEq, Repr

/-- Why tokens make no command: the place, and what should have stood there. -/
structure SyntaxError where
  rest : Tokens
  expected : Option String := none
  deriving DecidableEq, Repr

/-- Reads something from tokens. -/
abbrev Parser := StateT Tokens (Except SyntaxError)

namespace Parser

/-- The tokens that are left. -/
def rest : Parser Tokens := fun ts => .ok (ts, ts)

/-- Fails at this place. -/
def fail {α : Type} (expected : Option String) : Parser α := fun ts => .error ⟨ts, expected⟩

/-- Goes on with other tokens. -/
def goOn (ts : Tokens) : Parser Unit := fun _ => .ok ((), ts)

end Parser

/-- The reserved words that end a list of commands. -/
def closers : List Text :=
  ["then".toList, "elif".toList, "else".toList, "fi".toList, "esac".toList, "do".toList,
    "done".toList, ['\x7d']]

/-- The reserved word that comes next. -/
def reserved? : Tokens → Option Text
  | (_, .word w) :: _ => bare? w
  | _ => none

/-- Takes a reserved word. -/
def keyword (name : String) : Parser Unit := do
  let ts ← Parser.rest
  if reserved? ts = some name.toList then Parser.goOn (ts.drop 1) else Parser.fail (some name)

/-- Takes a reserved word if it comes next, and says whether it did. -/
def optionalKeyword (name : String) : Parser Bool := do
  let ts ← Parser.rest
  if reserved? ts = some name.toList then
    Parser.goOn (ts.drop 1)
    return true
  else return false

/-- Takes a token if it comes next, and says whether it did. -/
def optionalToken (t : Token) : Parser Bool := do
  match ← Parser.rest with
  | (_, u) :: ts => if u = t then do Parser.goOn ts; return true else return false
  | [] => return false

/-- Drops line ends. -/
def skipNewlines : Tokens → Tokens
  | (_, .newline) :: rest => skipNewlines rest
  | ts => ts

/-- Takes line ends. -/
def newlines : Parser Unit := do Parser.goOn (skipNewlines (← Parser.rest))

/-- Whether a list of commands ends here. -/
def atEnd (ts : Tokens) : Bool :=
  match ts with
  | [] | (_, .branchEnd) :: _ | (_, .closing) :: _ => true
  | _ =>
    match reserved? ts with
    | some name => closers.contains name
    | none => false

/-- A word as an assignment: the name and the value. -/
def assignment? (w : Word) : Option (Text × Word) :=
  let isEqual (p : Part) : Bool := p = .literal ['='] false
  match bare? (w.takeWhile (!isEqual ·)), w.dropWhile (!isEqual ·) with
  | some (c :: name), _ :: value =>
    if isNameStart c && name.all isNameChar then some (c :: name, value) else none
  | _, _ => none

/-- A redirection, if one comes next. -/
def redirection : Parser (Option Redirection) := do
  match ← Parser.rest with
  | (_, .here _ body) :: ts => do
    Parser.goOn ts
    return some (.here body)
  | (_, .redirect d direction) :: (_, .word w) :: ts => do
    Parser.goOn ts
    return some (.file d direction w)
  | (_, .redirect _ _) :: ts => do
    Parser.goOn ts
    Parser.fail none
  | _ => return none

/-- All redirections that come next; the fuel bounds their number. -/
def redirections : Nat → Parser (List Redirection)
  | 0 => return []
  | fuel + 1 => do
    match ← redirection with
    | some r => return r :: (← redirections fuel)
    | none => return []

/-- The rest of a simple command. -/
def simpleRest : Nat → Simple → Parser Simple
  | 0, s => return s
  | fuel + 1, s => do
    match ← redirection with
    | some r => simpleRest fuel { s with redirections := s.redirections ++ [r] }
    | none =>
      match ← Parser.rest with
      | (_, .word w) :: ts => do
        Parser.goOn ts
        match (if s.words = [] then assignment? w else none) with
        | some a => simpleRest fuel { s with assignments := s.assignments ++ [a] }
        | none => simpleRest fuel { s with words := s.words ++ [w] }
      | _ => return s

/-- Words up to something else. -/
def wordsHere : Tokens → List Word × Tokens
  | (_, .word w) :: rest =>
    let more := wordsHere rest
    (w :: more.1, more.2)
  | ts => ([], ts)

/-- The patterns of a branch up to the bracket that closes them. -/
def patterns : Parser (List Word) := do
  let _ ← optionalToken .opening
  let rec more (seen : List Word) : Tokens → Except SyntaxError (List Word × Tokens)
    | (_, .word w) :: (_, .bar) :: rest => more (seen ++ [w]) rest
    | (_, .word w) :: (_, .closing) :: rest => .ok (seen ++ [w], rest)
    | (_, .word _) :: rest => .error ⟨rest, some ")"⟩
    | ts => .error ⟨ts, if ts.isEmpty then some ")" else none⟩
  fun ts => more [] ts

/-- What is read next. -/
inductive Goal where
  /-- Commands up to a closing word, over several lines. -/
  | list
  /-- Commands up to the end of a line. -/
  | line
  | chain
  | chainAfter (first : Command)
  | pipeline
  | one
  | compound
  /-- What follows `if` or `elif`. -/
  | branches
  | choices (subject : Word)
  deriving DecidableEq, Repr

/-- Reads commands.  The fuel bounds the depth. -/
def parse : Nat → Goal → Parser Command
  | 0, _ => Parser.fail none
  | fuel + 1, .list => do
    newlines
    if atEnd (← Parser.rest) then return .skip
    else
      let first ← parse fuel .line
      return .seq first (← parse fuel .list)
  | fuel + 1, .line => do
    let first ← parse fuel .chain
    let apart ← optionalToken .background
    let more ← if apart then pure true else optionalToken .semicolon
    let first := if apart then .background first else first
    let ts ← Parser.rest
    if more && !atEnd ts && ts.head?.all fun t => t.2 ≠ .newline then
      return .seq first (← parse fuel .line)
    else return first
  | fuel + 1, .chain => do
    let first ← parse fuel .pipeline
    parse fuel (.chainAfter first)
  | fuel + 1, .chainAfter first => do
    if ← optionalToken .andThen then
      newlines
      let second ← parse fuel .pipeline
      parse fuel (.chainAfter (.both first second))
    else if ← optionalToken .orElse then
      newlines
      let second ← parse fuel .pipeline
      parse fuel (.chainAfter (.either first second))
    else return first
  | fuel + 1, .pipeline => do
    if ← optionalKeyword "!" then return .negated (← parse fuel .pipeline)
    else
      let first ← parse fuel .one
      if ← optionalToken .bar then
        newlines
        return .pipe first (← parse fuel .pipeline)
      else return first
  | fuel + 1, .one => do
    let ts ← Parser.rest
    match ts with
    | [] => Parser.fail none
    | (line, t) :: _ =>
      let starters := ["if", "case", "for", "while", "until", "\x7b"].map String.toList
      if t = .opening || (reserved? ts).any starters.contains then
        let body ← parse fuel .compound
        match ← redirections fuel with
        | [] => return body
        | rs => return .redirected line body rs
      else
        match ts with
        | (_, .word w) :: (_, .opening) :: (_, .closing) :: rest =>
          match bare? w with
          | some name =>
            Parser.goOn rest
            newlines
            return .define name (← parse fuel .one)
          | none => Parser.fail none
        | (_, .word _) :: (_, .opening) :: rest =>
          Parser.goOn rest
          Parser.fail (some ")")
        | _ =>
          if atEnd ts then Parser.fail none
          else
            let s ← simpleRest (ts.length + 1) { line }
            if (← Parser.rest).length < ts.length then return .simple s else Parser.fail none
  | fuel + 1, .compound => do
    if ← optionalToken .opening then
      let body ← parse fuel .list
      if body = .skip && !(← Parser.rest).isEmpty then Parser.fail none
      else if ← optionalToken .closing then return .apart body
      else Parser.fail (some ")")
    else if ← optionalKeyword "\x7b" then
      let body ← parse fuel .list
      if body = .skip && !(← Parser.rest).isEmpty then Parser.fail none
      else
        keyword "\x7d"
        return body
    else if ← optionalKeyword "if" then parse fuel .branches
    else if ← optionalKeyword "case" then
      match ← Parser.rest with
      | (_, .word w) :: rest =>
        Parser.goOn rest
        newlines
        keyword "in"
        parse fuel (.choices w)
      | _ => Parser.fail none
    else if ← optionalKeyword "for" then
      match ← Parser.rest with
      | (_, .word w) :: rest =>
        Parser.goOn rest
        match bare? w with
        | none => Parser.fail none
        | some name =>
          newlines
          let words ← if ← optionalKeyword "in" then
              let (words, rest) := wordsHere (← Parser.rest)
              Parser.goOn rest
              pure (some words)
            else pure none
          let _ ← optionalToken .semicolon
          newlines
          keyword "do"
          let body ← parse fuel .list
          keyword "done"
          return .each name words body
      | _ => Parser.fail none
    else
      let whileFailing ← optionalKeyword "until"
      if !whileFailing then keyword "while"
      let test ← parse fuel .list
      keyword "do"
      let body ← parse fuel .list
      keyword "done"
      return .loop test body whileFailing
  | fuel + 1, .branches => do
    let test ← parse fuel .list
    if test = .skip && !(← Parser.rest).isEmpty then Parser.fail none
    else
      keyword "then"
      let yes ← parse fuel .list
      if yes = .skip && !(← Parser.rest).isEmpty then Parser.fail none
      else if ← optionalKeyword "elif" then
        return .conditional test yes (← parse fuel .branches)
      else if ← optionalKeyword "else" then
        let no ← parse fuel .list
        keyword "fi"
        return .conditional test yes no
      else
        keyword "fi"
        return .conditional test yes .skip
  | fuel + 1, .choices subject => do
    newlines
    if ← optionalKeyword "esac" then return .skip
    else
      let patterns ← patterns
      let yes ← parse fuel .list
      if !(← optionalToken .branchEnd) then
        keyword "esac"
        return .choice subject patterns yes .skip
      else return .choice subject patterns yes (← parse fuel (.choices subject))

/-- The name of a token in a message. -/
def tokenName (t : Token) : String :=
  match t with
  | .word w =>
    match bare? w with
    | some name =>
      if closers.contains name || ["if", "case", "for", "while", "until", "in", "!", "\x7b"].any
          fun s => s.toList = name then
        "\"" ++ String.ofList name ++ "\" unexpected"
      else "word unexpected"
    | none => "word unexpected"
  | .newline => "newline unexpected"
  | .semicolon => "\";\" unexpected"
  | .branchEnd => "\";;\" unexpected"
  | .andThen => "\"&&\" unexpected"
  | .orElse => "\"||\" unexpected"
  | .background => "\"&\" unexpected"
  | .bar => "\"|\" unexpected"
  | .opening => "\"(\" unexpected"
  | .closing => "\")\" unexpected"
  | .redirect _ _ | .here _ _ => "redirection unexpected"
  | .broken message => message

/-- The line and the wording of an error, given the last line of the script. -/
def SyntaxError.message (last : Nat) (e : SyntaxError) : Nat × String :=
  let expecting := match e.expected with
    | some what => " (expecting \"" ++ what ++ "\")"
    | none => ""
  match e.rest with
  | [] => (last, "Syntax error: end of file unexpected" ++ expecting)
  | (_, .broken message) :: _ => (last, "Syntax error: " ++ message)
  | (line, .newline) :: _ => (line + 1, "Syntax error: newline unexpected" ++ expecting)
  | (line, t) :: _ => (line, "Syntax error: " ++ tokenName t ++ expecting)

/-- The next command of a script, with the tokens after its line; nothing at the end. -/
def nextCommand (ts : Tokens) : Except SyntaxError (Option (Command × Tokens)) :=
  match skipNewlines ts with
  | [] => .ok none
  | ts =>
    match (parse (8 * ts.length + 8) .line).run ts with
    | .error e => .error e
    | .ok (c, []) => .ok (some (c, []))
    | .ok (c, (_, .newline) :: rest) => .ok (some (c, rest))
    | .ok (_, rest) => .error ⟨rest, none⟩

end Script

end LogMigration
