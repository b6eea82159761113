import LogMigration.Call.Console
import LogMigration.Program.Output
import LogMigration.Scan.Backend
import LogMigration.Text.Count
import LogMigration.Text.WhiteSpace

/-!
# The external backend

Lists files with the program `find` and counts with the program `grep`.  The status of `grep` tells
a count of zero from a failure.  What the programs do is not said here: the backend is given a way
to launch them.

* `Launcher` — a way to launch programs.
* `External.readListing`, `External.readCount` — what is read from the output of a program.
* `External.launching` — the backend.
-/

set_option autoImplicit false

namespace LogMigration

/-- A way to launch programs: what the program of a name leaves behind, given some arguments, and the
workspace after it, or why it cannot be launched. -/
abbrev Launcher := Workspace → Text → List Text → Except IoError (ProgramOutput × Workspace)

namespace External

/-- The names of the two programs. -/
structure Tools where
  find : Text := "find".toList
  grep : Text := "grep".toList
  deriving DecidableEq, Repr

/-- The paths in a text: its lines, without those that are empty. -/
def pathsIn (s : Text) : List Path := ((Text.readLines s).filter (· ≠ [])).map Path.mk

/-- The paths in the output of a listing. -/
def readListing (program : Text) (output : ProgramOutput) : Except Failure (List Path) :=
  if output.code = some 0 then
    match Utf8.decode output.stdout with
    | .ok s => .ok (pathsIn s)
    | .error e => .error (Failure.during (.listedPaths program) (.of (.encoding e)))
  else
    .error (.of (.listingFailed program output.code (Text.trim (Utf8.decodeLossy output.stderr))))

/-- The count in the output of a query. -/
def readCount (program : Text) (output : ProgramOutput) : Except QueryError Nat :=
  match output.code with
  | some 0 =>
    let printed := Text.trim (Utf8.decodeLossy output.stdout)
    match Text.count? printed with
    | some n => .ok n
    | none => .error (.parse program printed)
  | some 1 => .ok 0
  | code => .error (.status program code (Text.trim (Utf8.decodeLossy output.stderr)))

/-- Lists the files below a directory with an extension. -/
def enumerate (launch : Launcher) (tools : Tools) (w : Workspace) (root : Path) (extension : Text) :
    Except Failure (List Path) × Workspace :=
  match launch w tools.find
      [root.text, "-name".toList, "*.".toList ++ extension, "-type".toList, ['f']] with
  | .error e => (.error (.of (.query (.spawn tools.find e))), w)
  | .ok (output, w) => (readListing tools.find output, w)

def count (launch : Launcher) (tools : Tools) (w : Workspace) (path : Path) :
    Except QueryError Nat × Workspace :=
  match launch w tools.grep ["-c".toList, Console.pattern, path.text] with
  | .error e => (.error (.spawn tools.grep e), w)
  | .ok (output, w) => (readCount tools.grep output, w)

/-- The backend that asks the two programs. -/
def launching {σ : Type} (launch : Launcher) (tools : Tools) : CountBackend σ where
  name := "grep"
  enumerate root extension s :=
    let r := enumerate launch tools s.1 root extension
    (r.1, (r.2, s.2))
  count path s :=
    let r := count launch tools s.1 path
    (r.1, (r.2, s.2))

end External

end LogMigration
