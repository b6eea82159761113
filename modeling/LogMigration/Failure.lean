import LogMigration.Glob
import LogMigration.Path.Basic
import LogMigration.Text.Quoted
import LogMigration.Text.Utf8

/-!
# Failures

A failure has a cause and the contexts in which it arose, the outermost first.

* `IoError` — what the operating system refuses.
* `QueryError` — a count that could not be had.
* `Failure.chain` — the messages from the outermost context down to the cause.
* `Failure.summary`, `Failure.report` — the chain on one line, and as a list of causes.
-/

set_option autoImplicit false

namespace LogMigration

/-- What can go wrong with a file or a program. -/
inductive IoError where
  | notFound
  | permissionDenied
  | notADirectory
  | isADirectory
  | tooManyLinks
  | nameTooLong
  | noExecutable
  /-- A file that was to be read as text is no UTF-8. -/
  | invalidText
  /-- A path with a NUL character. -/
  | nulInPath
  /-- An argument of a program with a NUL character. -/
  | nulInArgument
  /-- Any other error, by its text. -/
  | other (text : String)
  deriving DecidableEq, Repr

def IoError.message : IoError → String
  | .notFound => "No such file or directory (os error 2)"
  | .permissionDenied => "Permission denied (os error 13)"
  | .notADirectory => "Not a directory (os error 20)"
  | .isADirectory => "Is a directory (os error 21)"
  | .tooManyLinks => "Too many levels of symbolic links (os error 40)"
  | .nameTooLong => "File name too long (os error 36)"
  | .noExecutable => "Exec format error (os error 8)"
  | .invalidText => "stream did not contain valid UTF-8"
  | .nulInPath => "file name contained an unexpected NUL byte"
  | .nulInArgument => "nul byte found in provided data"
  | .other text => text

/-- A count query that could not be answered, which is not the same as a count of zero. -/
inductive QueryError where
  /-- The program could not be started. -/
  | spawn (program : Text) (source : IoError)
  /-- The program ended with a status that gives no count; a program that was killed has none. -/
  | status (program : Text) (code : Option Int) (stderr : Text)
  /-- The program printed something that is no count. -/
  | parse (program : Text) (output : Text)
  /-- The file could not be read. -/
  | read (path : Path) (source : IoError)
  deriving DecidableEq, Repr

def statusText : Option Int → String
  | some n => "Some(" ++ toString n ++ ")"
  | none => "None"

namespace QueryError

/-- The text of an error. -/
def message : QueryError → String
  | .spawn program source => "failed to run " ++ String.ofList program ++ ": " ++ source.message
  | .status program code stderr =>
    String.ofList program ++ " exited with status " ++ statusText code ++ ": " ++ String.ofList stderr
  | .parse program output =>
    "unexpected output from " ++ String.ofList program ++ ": " ++ String.ofList (Text.quoted output)
  | .read path source => "failed to read " ++ path.toString ++ ": " ++ source.message

/-- The error of the system behind it. -/
def source? : QueryError → Option IoError
  | .spawn _ source | .read _ source => some source
  | .status _ _ _ | .parse _ _ => none

end QueryError

/-- Why an operation failed. -/
inductive Cause where
  /-- A configuration file that is no document, or has a value of the wrong type. -/
  | malformedConfig
  | glob (error : GlobError)
  | query (error : QueryError)
  | io (error : IoError)
  | encoding (error : Utf8.Error)
  /-- The configuration has no table for this tool. -/
  | missingTable
  | unsupportedBackend (name : Text)
  | emptyExtension
  | invalidBinding (name : Text)
  | emptyModule
  | notADirectory (root : Path)
  /-- The program that lists files ended with an error. -/
  | listingFailed (program : Text) (code : Option Int) (stderr : Text)
  /-- Programs that the chosen backend needs are not installed. -/
  | missingPrograms (names : List String)
  /-- A backend's own message. -/
  | backend (message : Text)
  deriving DecidableEq, Repr

/-- The messages of a cause, with those of the errors behind it. -/
def Cause.messages : Cause → List String
  | .malformedConfig => ["TOML parse error"]
  | .glob error => [error.message]
  | .query error => error.message :: error.source?.toList.map IoError.message
  | .io error => [error.message]
  | .encoding error => [error.message]
  | .missingTable => ["[console_to_logger] not found"]
  | .unsupportedBackend name => ["unsupported backend: " ++ String.ofList name]
  | .emptyExtension => ["extension must not be empty"]
  | .invalidBinding name => ["logger_binding is not a valid identifier: " ++ String.ofList name]
  | .emptyModule => ["logger_module must not be empty"]
  | .notADirectory root => ["not a directory: " ++ root.toString]
  | .listingFailed program code stderr =>
    [String.ofList program ++ " failed (status " ++ statusText code ++ "): " ++ String.ofList stderr]
  | .missingPrograms names =>
    ["grep backend selected but not found in PATH: " ++ ", ".intercalate names]
  | .backend message => [String.ofList message]

/-- What was being done when something failed. -/
inductive Context where
  | loadConfig
  | readFile (path : Path)
  | writeFile (path : Path)
  | parseFile (path : Path)
  | excludeGlob (pattern : Text)
  | enumerate (extension : Text) (root : Path)
  | listedPaths (program : Text)
  | finalScan
  deriving DecidableEq, Repr

def Context.message : Context → String
  | .loadConfig => "failed to load config"
  | .readFile path => "failed to read " ++ path.toString
  | .writeFile path => "failed to write " ++ path.toString
  | .parseFile path => "failed to parse " ++ path.toString
  | .excludeGlob pattern => "invalid exclude glob: " ++ String.ofList pattern
  | .enumerate extension root =>
    "failed to enumerate *." ++ String.ofList extension ++ " files under " ++ root.toString
  | .listedPaths program => String.ofList program ++ " produced non UTF-8 paths"
  | .finalScan => "final scan for remaining console statements failed"

/-- A cause with its contexts, the outermost first. -/
structure Failure where
  contexts : List Context
  cause : Cause
  deriving DecidableEq, Repr

namespace Failure

/-- A failure without a context. -/
def of (cause : Cause) : Failure := ⟨[], cause⟩

/-- The failure in a further context. -/
def during (context : Context) (f : Failure) : Failure := { f with contexts := context :: f.contexts }

/-- The messages, the outermost first. -/
def chain (f : Failure) : List String := f.contexts.map Context.message ++ f.cause.messages

/-- The messages on one line. -/
def summary (f : Failure) : String := ": ".intercalate f.chain

/-- A cause as an item of a list: indented, and numbered if there are several. -/
def indented (number : Option Nat) (message : String) : String :=
  let lead := match number with
    | some n => "".pushn ' ' (5 - (toString n).length) ++ toString n ++ ": "
    | none => "    "
  let next := match number with
    | some _ => "\n       "
    | none => "\n    "
  lead ++ next.intercalate (message.splitOn "\n")

/-- The outermost message, and below it the list of causes. -/
def report (f : Failure) : String :=
  match f.chain with
  | [] => ""
  | [message] => message
  | [message, cause] => message ++ "\n\nCaused by:\n" ++ indented none cause
  | message :: causes =>
    message ++ "\n\nCaused by:\n"
      ++ "\n".intercalate (causes.zipIdx.map fun (cause, n) => indented (some n) cause)

end Failure

end LogMigration
