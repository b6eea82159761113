import LogMigration.FileTree.Walk
import LogMigration.Program.Find.Lead
import LogMigration.Program.Output
import LogMigration.Program.Wildcard
import LogMigration.Scan.Builtin

/-!
# Searching for files

The program `find`, asked for the regular files below a directory whose names fit a pattern: its
arguments are the directory, `-name`, the pattern, `-type` and `f`.  A link is not followed, not
even in the place of the directory.  A directory that looks like an option or like a condition is
taken for one, and the search is then in the working directory.

* `Find.search` — the search below a directory.
* `Find.run` — the program, for any first argument.
-/

set_option autoImplicit false

namespace LogMigration

namespace Find

/-! ## Messages -/

/-- One byte of a name in a message: printable ASCII as it is, anything else escaped. -/
def quoteByte (b : UInt8) : Text :=
  let c := Char.ofNat b.toNat
  let octal := ['\\', Char.ofNat (48 + b.toNat / 64), Char.ofNat (48 + b.toNat / 8 % 8),
    Char.ofNat (48 + b.toNat % 8)]
  if c = '\x27' || c = '\\' then ['\\', c]
  else if b = 7 then "\\a".toList
  else if b = 8 then "\\b".toList
  else if b = 9 then "\\t".toList
  else if b = 10 then "\\n".toList
  else if b = 11 then "\\v".toList
  else if b = 12 then "\\f".toList
  else if b = 13 then "\\r".toList
  else if 0x20 ≤ b && b < 0x7F then [c]
  else octal

def quote (s : Text) : Text := '\x27' :: (Utf8.encode s).flatMap quoteByte ++ ['\x27']

/-- What is said about a name that the system refuses. -/
def trouble (name : Text) (e : IoError) : Text := quote name ++ ": ".toList ++ e.reason.toList

def messages (ms : List Text) : Bytes :=
  ms.flatMap fun m => Utf8.encode ("find: ".toList ++ m ++ ['\n'])

/-- A search that ends with an error message. -/
def complain (message : Text) : ProgramOutput := { code := some 1, stderr := messages [message] }

def listing (paths : List Path) : ProgramOutput :=
  { code := some 0, stdout := paths.flatMap fun p => Utf8.encode (p.text ++ ['\n']) }

/-! ## Searches -/

/-- The last name in a path, without the slashes after it. -/
def baseName (p : Path) : Text :=
  ((p.text.reverse.dropWhile (· = '/')).takeWhile (· ≠ '/')).reverse

/-- Searches below a directory for regular files whose names fit the pattern. -/
def search (w : Workspace) (root : Path) (pattern : Text) : ProgramOutput :=
  match w.tree.resolve w.cwd root false with
  | .error e => complain (trouble root.text e)
  | .ok l =>
    match w.tree.get? l with
    | some .directory =>
      listing ((w.tree.filesBelow w.cwd root).filterMap fun (names, path) =>
        if names.getLast?.any (Wildcard.fits pattern) then some path else none)
    | some (.file _ _) => listing (if Wildcard.fits pattern (baseName root) then [root] else [])
    | _ => listing []

/-- The working directory. -/
def here : Path := .ofString "."

/-- The path that a search in the working directory gives to names. -/
def pathTo (names : List Text) : Path := names.foldl Path.join here

/-- Whether the last of the names fits the pattern. -/
def named (pattern : Text) (names : List Text) : Bool := names.getLast?.any (Wildcard.fits pattern)

/-- The search in the working directory that follows links. -/
def searchThroughLinks (w : Workspace) (pattern : Text) : ProgramOutput :=
  let steps := w.tree.walk w.cwd
  let found := steps.filterMap fun
    | .entry names (.file _ _) => if named pattern names then some (pathTo names) else none
    | _ => none
  let complaints := steps.filterMap fun
    | .entry _ _ => none
    | .loop names outer =>
      some ("File system loop detected; ".toList ++ quote (pathTo names).text
        ++ " is part of the same file system loop as ".toList ++ quote (pathTo outer).text ++ ['.'])
    | .broken names e => some (trouble (pathTo names).text e)
  { listing found with
    code := some (if complaints.isEmpty then 0 else 1)
    stderr := messages complaints }

/-- The files below the working directory that pass a test. -/
def filesHere (w : Workspace) (test : List Text → Bytes → Bool → Bool) : ProgramOutput :=
  listing ((w.tree.below w.cwd).filterMap fun
    | (names, .file content executable) =>
      if test names content executable then some (pathTo names) else none
    | _ => none)

/-- The working directory and all below it. -/
def allHere (w : Workspace) : List Path :=
  here :: (w.tree.below w.cwd).map fun (names, _) => pathTo names

/-- The workspace with an empty working directory. -/
def cleared (w : Workspace) : Workspace :=
  { w with tree := ⟨w.tree.entries.filter fun e =>
      match FileTree.namesBelow? w.cwd e.1 with
      | some (_ :: _) => false
      | _ => true⟩ }

/-- The search whose condition begins with a word that takes no value. -/
def runPrimary (w : Workspace) (pattern : Text) : Primary → ProgramOutput × Workspace
  | .always => (search w here pattern, w)
  | .never | .prune | .quit => (listing [], w)
  | .negated => (filesHere w fun names _ _ => !named pattern names, w)
  | .empty => (filesHere w fun names content _ => content.isEmpty && named pattern names, w)
  | .executable => (filesHere w fun names _ executable => executable && named pattern names, w)
  | .print => (listing (allHere w), w)
  | .print0 =>
    ({ code := some 0, stdout := (allHere w).flatMap fun p => Utf8.encode (p.text ++ ['\x00']) }, w)
  | .delete => (listing [], cleared w)

/-! ## Words with a value -/

/-- The argument after the directory, which a word with a value takes. -/
def value : Text := "-name".toList

/-- The kinds of patterns that are known by name. -/
def patternSyntaxes : List String :=
  ["findutils-default", "ed", "emacs", "gnu-awk", "grep", "posix-awk", "awk", "posix-basic",
    "posix-egrep", "egrep", "posix-extended", "posix-minimal-basic", "sed"]

/-- What is said if the value of a word is not of its kind. -/
def refusal? (w : Workspace) (word : Text) : ValueKind → Option Text
  | .anything | .output | .formattedOutput => none
  | .number =>
    some ("invalid argument `".toList ++ value ++ "' to `".toList ++ word ++ ['\x27'])
  | .depth =>
    some ("Expected a positive decimal integer argument to ".toList ++ word ++ ", but got ".toList
      ++ quote value)
  | .reference =>
    match w.tree.resolve w.cwd ⟨value⟩ false with
    | .ok _ => none
    | .error e => some (trouble value e)
  | .date => some ("I cannot figure out how to interpret ".toList ++ quote value
      ++ " as a date or time".toList)
  | .command => some ("missing argument to `".toList ++ word ++ ['\x27'])
  | .group => some (quote value ++ " is not the name of an existing group".toList)
  | .user => some (quote value ++ " is not the name of a known user".toList)
  | .mode => some ("invalid mode ".toList ++ quote value)
  | .patternSyntax =>
    some ("Unknown regular expression type ".toList ++ quote value ++ "; valid types are ".toList
      ++ Text.joinWith ", ".toList (patternSyntaxes.map fun s => quote s.toList) ++ ['.'])
  | .size => some ("invalid -size type `".toList ++ value.drop 4 ++ ['\x27'])
  | .fileType => some ("Unknown argument to ".toList ++ word ++ ": ".toList ++ value.take 1)
  | .days => some ("Invalid argument ".toList ++ value ++ " to ".toList ++ word)
  | .securityContext =>
    some ("invalid predicate ".toList ++ word ++ ": SELinux is not enabled.".toList)

/-- What is said about the pattern when a word has taken the argument before it. -/
def misplaced (w : Workspace) (word pattern : Text) : ProgramOutput :=
  let first := "paths must precede expression: `".toList ++ pattern ++ ['\x27']
  let second := "possible unquoted pattern after predicate `".toList ++ word ++ "'?".toList
  { code := some 1
    stderr := messages (first :: if w.isPresent ⟨pattern⟩ then [second] else []) }

/-- The search whose condition begins with a word that takes a value.  One that writes to a file
makes it before anything else. -/
def runValued (w : Workspace) (word pattern : Text) (kind : ValueKind) :
    ProgramOutput × Workspace :=
  match refusal? w word kind with
  | some message => (complain message, w)
  | none =>
    if kind = .output || kind = .formattedOutput then
      match w.write ⟨value⟩ [] with
      | .error (e, left) => (complain (trouble value e), left)
      | .ok made =>
        if kind = .output then (misplaced made word pattern, made)
        else
          let content := (allHere made).flatMap fun _ => Utf8.encode pattern
          (listing [], (made.write ⟨value⟩ content).toOption.getD made)
    else (misplaced w word pattern, w)

/-! ## The program -/

/-- Searches for regular files whose names fit a pattern. -/
def run (w : Workspace) (root : Path) (pattern : Text) : ProgramOutput × Workspace :=
  match Lead.ofWord root.text with
  | .path => (search w root pattern, w)
  | .option false => (search w here pattern, w)
  | .option true => (searchThroughLinks w pattern, w)
  | .debugOption =>
    let output := search w ⟨pattern⟩ ['*']
    let ignored := "Ignoring unrecognised debug flag ".toList ++ quote value
    ({ output with stderr := messages [ignored] ++ output.stderr }, w)
  | .primary p => runPrimary w pattern p
  | .valued kind => runValued w root.text pattern kind
  | .refused message => (complain message, w)

end Find

end LogMigration
