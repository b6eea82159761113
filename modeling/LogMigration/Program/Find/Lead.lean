import LogMigration.Text.Count

/-!
# The first argument of a search

The program `find` takes its first argument for a directory only if it does not look like something
else: an option that says how links are treated, or the first word of the condition.

* `Find.Lead` — what the first argument is.
* `Find.Lead.ofWord` — tells which.
-/

set_option autoImplicit false

namespace LogMigration

namespace Find

/-- A first word of a condition that takes no value. -/
inductive Primary where
  | always
  | never
  /-- The condition that follows is turned round. -/
  | negated
  | empty
  | executable
  | print
  | print0
  | prune
  | quit
  | delete
  deriving DecidableEq, Repr

/-- What the value of a word has to be. -/
inductive ValueKind where
  | anything
  | number
  | depth
  /-- A file to compare with. -/
  | reference
  /-- A file that is written to. -/
  | output
  /-- A file that is written to, and the format of what is written. -/
  | formattedOutput
  | date
  | command
  | group
  | user
  | mode
  | patternSyntax
  | size
  | fileType
  | days
  | securityContext
  deriving DecidableEq, Repr

/-- What the first argument of a search is. -/
inductive Lead where
  /-- The directory to search. -/
  | path
  /-- An option; the search is in the working directory and may follow links. -/
  | option (follow : Bool)
  /-- An option that takes the next argument as its value. -/
  | debugOption
  | primary (p : Primary)
  /-- A word of the condition that takes a value. -/
  | valued (kind : ValueKind)
  /-- Something that is refused at once. -/
  | refused (message : Text)
  deriving DecidableEq, Repr

/-- The words that take no value. -/
def primaries : List (String × Primary) :=
  [("true", .always), ("depth", .always), ("d", .always), ("daystart", .always),
    ("ignore_readdir_race", .always), ("noignore_readdir_race", .always), ("mount", .always),
    ("xdev", .always), ("noleaf", .always), ("warn", .always), ("nowarn", .always),
    ("readable", .always), ("writable", .always), ("false", .never), ("nouser", .never),
    ("nogroup", .never), ("!", .negated), ("not", .negated), ("empty", .empty),
    ("executable", .executable), ("print", .print), ("ls", .print), ("print0", .print0),
    ("prune", .prune), ("quit", .quit), ("delete", .delete)]

/-- The words that take a value. -/
def valuedWords : List (String × ValueKind) :=
  [("files0-from", .anything), ("fstype", .anything), ("ilname", .anything), ("iname", .anything),
    ("ipath", .anything), ("iregex", .anything), ("iwholename", .anything), ("lname", .anything),
    ("name", .anything), ("path", .anything), ("printf", .anything), ("regex", .anything),
    ("wholename", .anything), ("amin", .number), ("atime", .number), ("cmin", .number),
    ("ctime", .number), ("gid", .number), ("inum", .number), ("links", .number),
    ("mmin", .number), ("mtime", .number), ("uid", .number), ("maxdepth", .depth),
    ("mindepth", .depth), ("anewer", .reference), ("cnewer", .reference), ("newer", .reference),
    ("samefile", .reference), ("fls", .output), ("fprint", .output), ("fprint0", .output),
    ("fprintf", .formattedOutput), ("exec", .command), ("execdir", .command), ("ok", .command),
    ("okdir", .command), ("group", .group), ("user", .user), ("perm", .mode),
    ("regextype", .patternSyntax), ("size", .size), ("type", .fileType), ("xtype", .fileType),
    ("used", .days), ("context", .securityContext)]

/-- The words that join two conditions. -/
def joiners : List String := ["a", "and", "o", "or", ","]

namespace Lead

/-- The word `-newerXY`: a time `X` is compared with a time `Y` of a file, or with a date. -/
def ofComparison (x y : Char) : Lead :=
  let word := "-newer".toList ++ [x, y]
  let invalid := "invalid predicate `".toList ++ word ++ ['\x27']
  let known := ['a', 'B', 'c', 'm']
  if !known.contains x || !('t' :: known).contains y then .refused invalid
  else if x = 'B' || y = 'B' then
    .refused ("This system does not provide a way to find the birth time of a file.\nfind: ".toList
      ++ invalid)
  else if y = 't' then .valued .date
  else .valued .reference

/-- The option `-O` with the level of optimisation that follows it at once. -/
def ofLevel (level : Text) : Lead :=
  let digits := level.takeWhile Char.isDigit
  let value := Text.digitsValue digits
  if level = [] then
    .refused "The -O option must be immediately followed by a decimal integer".toList
  else if digits = [] then
    .refused "Please specify a decimal number immediately after -O".toList
  else if digits ≠ level then .refused ("Invalid optimisation level ".toList ++ level)
  else if countLimit ≤ value then
    .refused ("Invalid optimisation level ".toList ++ level
      ++ ": Numerical result out of range".toList)
  else if 65535 < value then
    .refused ("Optimisation level ".toList ++ Nat.toDigits 10 value ++ (" is too high.  "
      ++ "If you want to find files very quickly, consider using GNU locate.").toList)
  else .option false

/-- The first word of a condition, given without its hyphen and in full. -/
def ofCondition (name word : Text) : Lead :=
  match primaries.find? fun p => p.1.toList = name with
  | some p => .primary p.2
  | none =>
    match valuedWords.find? fun p => p.1.toList = name with
    | some p => .valued p.2
    | none =>
      if joiners.any fun j => j.toList = name then
        .refused ("invalid expression; you have used a binary operator '".toList ++ word
          ++ "' with nothing before it.".toList)
      else if name = ['('] then
        .refused
          "invalid expression; I was expecting to find a ')' somewhere but did not see one.".toList
      else if name = [')'] then
        .refused ("invalid expression: expected expression before closing parentheses '".toList
          ++ word ++ "'.".toList)
      else .refused ("unknown predicate `".toList ++ word ++ ['\x27'])

/-- What the first argument of a search is. -/
def ofWord (word : Text) : Lead :=
  match word with
  | ['('] | ['!'] => ofCondition word word
  | ['-', 'H'] | ['-', 'P'] | ['-', '-'] => .option false
  | ['-', 'L'] | ['-', 'f', 'o', 'l', 'l', 'o', 'w'] => .option true
  | ['-', 'D'] => .debugOption
  | '-' :: 'O' :: level => ofLevel level
  | ['-', 'n', 'e', 'w', 'e', 'r', x, y] => ofComparison x y
  | '-' :: c :: rest => ofCondition (c :: rest) word
  | _ => .path

end Lead

end Find

end LogMigration
