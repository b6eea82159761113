import LogMigration.Text.Count

/-!
# The options of a line count

The program `grep` takes an argument that begins with a hyphen for options: several letters after
one hyphen, or a name after two, which may be cut short as long as it is clear.

* `Grep.Kind` — what an option is about.
* `Grep.readWord` — the options in an argument, with their values.
-/

set_option autoImplicit false

namespace LogMigration

namespace Grep

/-- How a pattern is read. -/
inductive Matcher where
  | grep
  | egrep
  | fgrep
  | awk
  | gawk
  | posixawk
  | perl
  deriving DecidableEq, Repr

def Matcher.name : Matcher → String
  | .grep => "grep"
  | .egrep => "egrep"
  | .fgrep => "fgrep"
  | .awk => "awk"
  | .gawk => "gawk"
  | .posixawk => "posixawk"
  | .perl => "perl"

def Matcher.all : List Matcher := [.grep, .egrep, .fgrep, .awk, .gawk, .posixawk, .perl]

/-- What an option is about. -/
inductive Kind where
  | matcher (m : Matcher)
  | namedMatcher
  /-- Lines to show around a match: a number of them after, before, or on both sides. -/
  | context (side : String)
  | maxCount
  | directories
  | devices
  | binaryFiles
  | color
  | pattern
  | patternFile
  | excludeFrom
  | invert
  | ignoreCase
  | keepCase
  | wholeLine
  | wholeWord
  | nulLines
  | showNames
  | hideNames
  | listMatching
  | listOthers
  | quiet
  | silent
  | nulNames
  | recursive (follow : Bool)
  | text
  | skipBinary
  | help
  | version
  /-- An option with no bearing on a count, by name. -/
  | idle (name : String)
  /-- The same with a value. -/
  | idleValue (name : String)
  deriving DecidableEq, Repr

/-- Whether an option has a value. -/
inductive Need where
  | never
  | maybe
  | always
  deriving DecidableEq, Repr

/-- Whether an option has a value. -/
def Kind.need : Kind → Need
  | .namedMatcher | .context _ | .maxCount | .directories | .devices | .binaryFiles | .pattern
  | .patternFile | .excludeFrom | .idleValue _ => .always
  | .color => .maybe
  | _ => .never

def letters : List (Char × Kind) :=
  [('A', .context "after"), ('B', .context "before"), ('C', .context "both"), ('D', .devices),
    ('E', .matcher .egrep), ('F', .matcher .fgrep), ('G', .matcher .grep), ('H', .showNames),
    ('I', .skipBinary), ('L', .listOthers), ('P', .matcher .perl), ('R', .recursive true),
    ('T', .idle "tab"), ('U', .idle "binary"), ('V', .version), ('X', .namedMatcher),
    ('Z', .nulNames), ('a', .text), ('b', .idle "byte"), ('c', .idle "count"),
    ('d', .directories), ('e', .pattern), ('f', .patternFile), ('h', .hideNames),
    ('i', .ignoreCase), ('l', .listMatching), ('m', .maxCount), ('n', .idle "number"),
    ('o', .idle "only"), ('q', .quiet), ('r', .recursive false), ('s', .silent),
    ('u', .idle "unix"), ('v', .invert), ('w', .wholeWord), ('x', .wholeLine),
    ('y', .ignoreCase), ('z', .nulLines)]

def longNames : List (String × Kind) :=
  [("basic-regexp", .matcher .grep), ("extended-regexp", .matcher .egrep),
    ("fixed-regexp", .matcher .fgrep), ("fixed-strings", .matcher .fgrep),
    ("perl-regexp", .matcher .perl), ("after-context", .context "after"),
    ("before-context", .context "before"), ("binary-files", .binaryFiles),
    ("byte-offset", .idle "byte"), ("context", .context "both"), ("color", .color),
    ("colour", .color), ("count", .idle "count"), ("devices", .devices),
    ("directories", .directories), ("exclude", .idleValue "exclude"),
    ("exclude-from", .excludeFrom), ("exclude-dir", .idleValue "exclude-dir"),
    ("file", .patternFile), ("files-with-matches", .listMatching),
    ("files-without-match", .listOthers), ("group-separator", .idleValue "separator"),
    ("help", .help), ("include", .idleValue "include"), ("ignore-case", .ignoreCase),
    ("no-ignore-case", .keepCase), ("initial-tab", .idle "tab"), ("label", .idleValue "label"),
    ("line-buffered", .idle "buffered"), ("line-number", .idle "number"),
    ("line-regexp", .wholeLine), ("max-count", .maxCount), ("no-filename", .hideNames),
    ("no-group-separator", .idle "separator"), ("no-messages", .silent), ("null", .nulNames),
    ("null-data", .nulLines), ("only-matching", .idle "only"), ("quiet", .quiet),
    ("recursive", .recursive false), ("dereference-recursive", .recursive true),
    ("regexp", .pattern), ("invert-match", .invert), ("silent", .quiet), ("text", .text),
    ("binary", .idle "binary"), ("unix-byte-offsets", .idle "unix"), ("version", .version),
    ("with-filename", .showNames), ("word-regexp", .wholeWord)]

/-- Why an argument holds no options. -/
inductive OptionError where
  | unknownLetter (c : Char)
  | letterNeedsValue (c : Char)
  | unknownName (written : Text)
  | unclearName (written : Text) (names : List String)
  | nameNeedsValue (name : String)
  | nameTakesNoValue (name : String)
  deriving DecidableEq, Repr

/-- The wording of an error.  The program works on bytes, so of a letter beyond ASCII it only shows
a broken piece. -/
def OptionError.message : OptionError → Text
  | .unknownLetter c =>
    "invalid option -- '".toList ++ [if c.toNat < 0x80 then c else '\ufffd', '\x27']
  | .letterNeedsValue c => "option requires an argument -- '".toList ++ [c, '\x27']
  | .unknownName s => "unrecognized option '".toList ++ s ++ ['\x27']
  | .unclearName s names =>
    "option '".toList ++ s ++ "' is ambiguous; possibilities:".toList
      ++ names.flatMap fun n => " '--".toList ++ n.toList ++ ['\x27']
  | .nameNeedsValue n => "option '--".toList ++ n.toList ++ "' requires an argument".toList
  | .nameTakesNoValue n => "option '--".toList ++ n.toList ++ "' doesn't allow an argument".toList

/-- The options in letters after one hyphen, up to the first error.  A letter with a value takes all
that follows it; a digit belongs to a number of lines to show around a match. -/
def readLetters : Text → List (Except OptionError (Kind × Text))
  | [] => []
  | c :: rest =>
    if c.isDigit then readLetters rest
    else
      match letters.find? fun l => l.1 = c with
      | none => [.error (.unknownLetter c)]
      | some (_, kind) =>
        if kind.need = .always then
          [if rest = [] then .error (.letterNeedsValue c) else .ok (kind, rest)]
        else .ok (kind, []) :: readLetters rest

/-- The options that a name may stand for: the one that has it in full, or else those that begin
with it. -/
def candidates (name : Text) : List (String × Kind) :=
  match longNames.find? fun l => l.1.toList = name with
  | some l => [l]
  | none => longNames.filter fun l => Text.startsWith name l.1.toList

/-- The option in what follows two hyphens. -/
def readName (s : Text) : Except OptionError (Kind × Text) :=
  let written := "--".toList ++ s
  let value := (s.dropWhile (· ≠ '=')).drop 1
  let hasValue := '=' ∈ s
  match candidates (s.takeWhile (· ≠ '=')) with
  | [] => .error (.unknownName written)
  | (name, kind) :: others =>
    match others.filter fun o => o.2 ≠ kind with
    | [] =>
      match kind.need with
      | .never => if hasValue then .error (.nameTakesNoValue name) else .ok (kind, [])
      | .maybe => .ok (kind, if hasValue then value else "auto".toList)
      | .always => if hasValue then .ok (kind, value) else .error (.nameNeedsValue name)
    | unclear => .error (.unclearName written (name :: unclear.map Prod.fst))

/-- The options in an argument that follows a hyphen, with their values, up to the first error. -/
def readWord : Text → List (Except OptionError (Kind × Text))
  | ['-'] => []
  | '-' :: name => [readName name]
  | s => readLetters s

end Grep

end LogMigration
