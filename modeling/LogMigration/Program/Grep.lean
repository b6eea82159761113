import LogMigration.Call.Console
import LogMigration.FileTree.Walk
import LogMigration.Program.Grep.Settings

/-!
# Counting matching lines

The program `grep`, asked for the number of lines of a file that hold a console statement: its
arguments are `-c`, the pattern and the file.  It works on bytes.  A file that begins with a hyphen
is taken for options; then there is no file, and the program counts in the empty input or, if asked
to, in all files below the working directory.

* `Grep.countFile` — the count in a file; NUL bytes end lines as well.
* `Grep.runWith` — the program with options.
* `Grep.run` — the program, for any last argument.
-/

set_option autoImplicit false

namespace LogMigration

namespace Grep

/-! ## Counting in a file -/

/-- The count as the program prints it; its status tells whether it is zero. -/
def answer (n : Nat) : ProgramOutput :=
  { code := some (if n = 0 then 1 else 0), stdout := Utf8.encode ((toString n).toList ++ ['\n']) }

/-- The number of lines with a statement; NUL bytes end lines too. -/
def lineCount (bs : Bytes) : Nat :=
  (Console.splitBytes (fun b => b = 0x0A || b = 0x00) bs).countP Console.mentionsBytes

/-- Counts the lines of a file with a statement.  The path `-` stands for an empty input. -/
def countFile (w : Workspace) (path : Path) : ProgramOutput :=
  if path.text = ['-'] then answer 0
  else
    match w.read path with
    | .ok bytes => answer (lineCount bytes)
    | .error e => refuse (trouble path.text e)

/-! ## Counting with options -/

/-- The texts that the pattern stands for.  Only in its basic reading is it a choice. -/
def Matcher.literals : Matcher → List Text
  | .grep => ["console.log".toList, "console.error".toList, "console.warn".toList]
  | .fgrep => [Console.pattern]
  | _ => ["console.(log|error|warn)".toList]

def isWordByte (b : UInt8) : Bool :=
  let c := Char.ofNat b.toNat
  c.isAlphanum || c = '_'

/-- A letter as it is compared when case does not count. -/
def foldByte (b : UInt8) : UInt8 := if 0x41 ≤ b && b ≤ 0x5A then b + 0x20 else b

namespace Settings

/-- The bytes as they are compared. -/
def compared (s : Settings) (bs : Bytes) : Bytes := if s.ignoreCase then bs.map foldByte else bs

/-- What the pattern stands for, as it is compared. -/
def sought (s : Settings) : List Bytes :=
  ((s.matcher.getD .grep).literals).map fun l => s.compared (Utf8.encode l)

/-- Whether one of the sought texts stands at the start, after a byte or at the start of a line. -/
def startsMatch (s : Settings) (before : Option UInt8) (bs : Bytes) : Bool :=
  s.sought.any fun l =>
    l.isPrefixOf bs
      && (!s.wholeWord || (!before.any isWordByte && !(bs.drop l.length).head?.any isWordByte))

/-- Whether one of the sought texts stands somewhere in the rest of a line. -/
def hasMatch (s : Settings) (before : Option UInt8) : Bytes → Bool
  | [] => false
  | b :: bs => s.startsMatch before (b :: bs) || hasMatch s (some b) bs

/-- Whether a line counts. -/
def selects (s : Settings) (line : Bytes) : Bool :=
  let line := s.compared line
  (if s.wholeLine then s.sought.contains line else s.hasMatch none line) != s.invert

/-- The lines of a file.  Nothing after the last line end is no line. -/
def linesOf (s : Settings) (content : Bytes) : List Bytes :=
  let isEnd (b : UInt8) : Bool :=
    if s.nulLines then b = 0x00
    else b = 0x0A || (b = 0x00 && s.binaryFiles = .lines)
  let pieces := Console.splitBytes isEnd content
  if pieces.getLast? = some [] then pieces.dropLast else pieces

/-- The number of lines that count, up to the limit. -/
def count (s : Settings) (content : Bytes) : Nat :=
  if s.binaryFiles = .skip && !s.nulLines && content.contains 0x00 then 0
  else
    let n := (s.linesOf content).countP s.selects
    match s.limit with
    | some limit => min n limit
    | none => n

/-- What is printed about one input. -/
def printed (s : Settings) (name : Text) (n : Nat) : Text :=
  if s.quiet then []
  else
    match s.listed with
    | some matching =>
      if decide (0 < n) = matching then name ++ [if s.nulNames then '\x00' else '\n'] else []
    | none =>
      let label := if s.namesShown.getD s.recursion.isSome then
          name ++ [if s.nulNames then '\x00' else ':']
        else []
      label ++ (toString n).toList ++ ['\n']

/-- What the program leaves behind after counting in named inputs, with what went wrong and what it
warns of. -/
def report (s : Settings) (counts : List (Text × Nat)) (troubles warnings : List Text) :
    ProgramOutput :=
  let found := counts.any fun c => decide (0 < c.2)
  { code := some (if !troubles.isEmpty && !(s.quiet && found) then 2 else if found then 0 else 1)
    stdout := Utf8.encode (counts.flatMap fun (name, n) => s.printed name n)
    stderr := if s.silent then []
      else (troubles ++ warnings).flatMap fun m => Utf8.encode ("grep: ".toList ++ m ++ ['\n']) }

def nameOf (names : List Text) : Text := Text.joinWith ['/'] names

/-- Counts in all files below the working directory. -/
def countBelow (s : Settings) (w : Workspace) : ProgramOutput :=
  s.report
    ((w.tree.below w.cwd).filterMap fun
      | (names, .file content _) => some (nameOf names, s.count content)
      | _ => none)
    [] []

/-- Counts in all files below the working directory, through links. -/
def countThroughLinks (s : Settings) (w : Workspace) : ProgramOutput :=
  let steps := w.tree.walk w.cwd
  s.report
    (steps.filterMap fun
      | .entry names (.file content _) => some (nameOf names, s.count content)
      | _ => none)
    (steps.filterMap fun
      | .entry names (.link _) => some (trouble (nameOf names) .notFound)
      | .broken names e => some (trouble (nameOf names) e)
      | _ => none)
    (steps.filterMap fun
      | .loop names _ => some (nameOf names ++ ": warning: recursive directory loop".toList)
      | _ => none)

end Settings

/-- The program with options in the place of a file.  If they bring a pattern, the argument for the
pattern is the file. -/
def runWith (w : Workspace) (s : Settings) : ProgramOutput :=
  if s.inquiry then { code := some 0 }
  else if s.limit = some 0 then { code := some 1 }
  else
    match s.pattern with
    | some given =>
      if !given && !s.invert then { code := some 1 }
      else
        match w.read ⟨Console.pattern⟩ with
        | .ok _ => s.report [(Console.pattern, 0)] [] []
        | .error e => s.report [] [trouble Console.pattern e] []
    | none =>
      match s.recursion with
      | none => s.report [("(standard input)".toList, s.count [])] [] []
      | some false => s.countBelow w
      | some true => s.countThroughLinks w

/-! ## The program -/

/-- Counts the lines of a file with a statement. -/
def run (w : Workspace) (path : Path) : ProgramOutput :=
  match path.text with
  | '-' :: c :: rest =>
    match Settings.ofWord w (c :: rest) with
    | .ok s => runWith w s
    | .error output => output
  | _ => countFile w path

end Grep

end LogMigration
