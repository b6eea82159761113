import LogMigration.Program.Grep.Option
import LogMigration.Program.Output
import LogMigration.Workspace

/-!
# The settings of a line count

What the options of the program `grep` ask for, taken one after the other.  An option that makes no
sense ends the program with a message.

* `Grep.Settings` — what is asked for.
* `Grep.Settings.ofWord` — the settings from one argument.
-/

set_option autoImplicit false

namespace LogMigration

namespace Grep

/-- How a file with NUL bytes is treated. -/
inductive BinaryFiles where
  /-- NUL bytes end lines as well. -/
  | lines
  | text
  | skip
  deriving DecidableEq, Repr

/-- What the options ask for. -/
structure Settings where
  matcher : Option Matcher := none
  invert : Bool := false
  ignoreCase : Bool := false
  wholeLine : Bool := false
  wholeWord : Bool := false
  nulLines : Bool := false
  namesShown : Option Bool := none
  /-- List only the files with a match, or only those without one. -/
  listed : Option Bool := none
  quiet : Bool := false
  silent : Bool := false
  nulNames : Bool := false
  limit : Option Nat := none
  /-- Count in all files below the working directory, through links or not. -/
  recursion : Option Bool := none
  binaryFiles : BinaryFiles := .lines
  /-- Whether an option brings a pattern, and whether there is any in it. -/
  pattern : Option Bool := none
  /-- Whether the options only ask about the program. -/
  inquiry : Bool := false
  deriving DecidableEq, Repr

/-- A run that ends with a message. -/
def refuse (message : Text) : ProgramOutput :=
  { code := some 2, stderr := Utf8.encode ("grep: ".toList ++ message ++ ['\n']) }

/-- What is said about a file that the system refuses. -/
def trouble (name : Text) (e : IoError) : Text := name ++ ": ".toList ++ e.reason.toList

/-- A run that ends with a message and a hint. -/
def refuseOption (e : OptionError) : ProgramOutput :=
  refuse (e.message ++ ("\nUsage: grep [OPTION]... PATTERNS [FILE]...\n"
    ++ "Try 'grep --help' for more information.").toList)

/-- The number that a text spells, after white space and with a sign. -/
def number? (s : Text) : Option Int :=
  let s := s.dropWhile fun c => c = ' ' || ('\t' ≤ c && c ≤ '\r')
  let signed (sign : Int) (ds : Text) : Option Int :=
    if ds ≠ [] && ds.all Char.isDigit then some (sign * Text.digitsValue ds) else none
  match s with
  | '-' :: ds => signed (-1) ds
  | '+' :: ds => signed 1 ds
  | ds => signed 1 ds

/-- The ways to treat a directory. -/
def directoryActions : List String := ["read", "recurse", "skip"]

/-- The texts that say when to use colours. -/
def colorTimes : List String :=
  ["always", "yes", "force", "never", "no", "none", "auto", "tty", "if-tty"]

namespace Settings

/-- The settings with a way to read patterns; there cannot be two. -/
def withMatcher (s : Settings) (m : Matcher) : Except ProgramOutput Settings :=
  if s.matcher.all (· = m) then .ok { s with matcher := some m }
  else .error (refuse "conflicting matchers specified".toList)

/-- The settings with a pattern from a file; a hyphen is the empty input. -/
def withPatternFile (s : Settings) (w : Workspace) (file : Text) : Except ProgramOutput Settings :=
  if file = ['-'] then .ok { s with pattern := some false }
  else
    match w.read ⟨file⟩ with
    | .ok content => .ok { s with pattern := some !content.isEmpty }
    | .error e => .error (refuse (trouble file e))

/-- The settings with a way to treat directories, whose name may be cut short. -/
def withDirectories (s : Settings) (value : Text) : Except ProgramOutput Settings :=
  match directoryActions.filter fun a => Text.startsWith value a.toList with
  | [action] => .ok (if action = "recurse" then { s with recursion := some false } else s)
  | _ => .error { code := some 1 }

/-- The settings with one more option. -/
def apply (w : Workspace) (s : Settings) : Kind × Text → Except ProgramOutput Settings
  | (.matcher m, _) => s.withMatcher m
  | (.namedMatcher, value) =>
    match Matcher.all.find? fun m => m.name.toList = value with
    | some m => s.withMatcher m
    | none => .error (refuse ("invalid matcher ".toList ++ value))
  | (.context _, value) =>
    if (number? value).any (0 ≤ ·) then .ok s
    else .error (refuse (value ++ ": invalid context length argument".toList))
  | (.maxCount, value) =>
    match number? value with
    | some n => .ok { s with limit := if 0 ≤ n then some n.toNat else none }
    | none => .error (refuse "invalid max count".toList)
  | (.directories, value) => s.withDirectories value
  | (.devices, value) =>
    if value = "read".toList || value = "skip".toList then .ok s
    else .error (refuse "unknown devices method".toList)
  | (.binaryFiles, value) =>
    if value = "binary".toList then .ok { s with binaryFiles := .lines }
    else if value = "text".toList then .ok { s with binaryFiles := .text }
    else if value = "without-match".toList then .ok { s with binaryFiles := .skip }
    else .error (refuse "unknown binary-files type".toList)
  | (.color, value) =>
    .ok (if colorTimes.any fun t => t.toList = value then s else { s with inquiry := true })
  | (.pattern, _) => .ok { s with pattern := some true }
  | (.patternFile, value) => s.withPatternFile w value
  | (.excludeFrom, value) =>
    match w.read ⟨value⟩ with
    | .ok _ => .ok s
    | .error e => .error (refuse (trouble value e))
  | (.invert, _) => .ok { s with invert := true }
  | (.ignoreCase, _) => .ok { s with ignoreCase := true }
  | (.keepCase, _) => .ok { s with ignoreCase := false }
  | (.wholeLine, _) => .ok { s with wholeLine := true }
  | (.wholeWord, _) => .ok { s with wholeWord := true }
  | (.nulLines, _) => .ok { s with nulLines := true }
  | (.showNames, _) => .ok { s with namesShown := some true }
  | (.hideNames, _) => .ok { s with namesShown := some false }
  | (.listMatching, _) => .ok { s with listed := some true }
  | (.listOthers, _) => .ok { s with listed := some false }
  | (.quiet, _) => .ok { s with quiet := true }
  | (.silent, _) => .ok { s with silent := true }
  | (.nulNames, _) => .ok { s with nulNames := true }
  | (.recursive follow, _) => .ok { s with recursion := some follow }
  | (.text, _) => .ok { s with binaryFiles := .text }
  | (.skipBinary, _) => .ok { s with binaryFiles := .skip }
  | (.help, _) | (.version, _) => .ok { s with inquiry := true }
  | (.idle _, _) | (.idleValue _, _) => .ok s

/-- The settings from an argument that follows a hyphen.  Its options count one after the other, so
the first that makes no sense ends the program. -/
def ofWord (w : Workspace) (word : Text) : Except ProgramOutput Settings :=
  (readWord word).foldlM
    (fun s option =>
      match option with
      | .ok o => s.apply w o
      | .error e => .error (refuseOption e))
    {}

end Settings

end Grep

end LogMigration
