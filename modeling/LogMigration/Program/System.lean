import LogMigration.Program.Find
import LogMigration.Program.Grep

/-!
# Programs of the system

The programs that are found where the system keeps its programs.

* `SystemProgram.ofName?` — the program that a name or a path stands for.
* `SystemProgram.run` — what it leaves behind.
-/

set_option autoImplicit false

namespace LogMigration

/-- The programs of the system. -/
inductive SystemProgram where
  | find
  | grep
  | cat
  | echo
  | success
  | failure
  | sleep
  deriving DecidableEq, Repr

namespace SystemProgram

def name : SystemProgram → String
  | .find => "find"
  | .grep => "grep"
  | .cat => "cat"
  | .echo => "echo"
  | .success => "true"
  | .failure => "false"
  | .sleep => "sleep"

def all : List SystemProgram := [.find, .grep, .cat, .echo, .success, .failure, .sleep]

/-- The program that a name or an absolute path stands for. -/
def ofName? (s : Text) : Option SystemProgram :=
  all.find? fun p =>
    [p.name.toList, "/usr/bin/".toList ++ p.name.toList, "/bin/".toList ++ p.name.toList].contains s

def echoed (arguments : List Text) : Bytes :=
  match arguments with
  | ['-', 'n'] :: rest => Utf8.encode (Text.joinWith [' '] rest)
  | _ => Utf8.encode (Text.joinWith [' '] arguments ++ ['\n'])

/-- What `cat` leaves behind: files one after the other, where a hyphen is the input. -/
def joined (w : Workspace) (input : Bytes) : List Text → ProgramOutput
  | [] => { code := some 0 }
  | file :: rest =>
    let more := joined w input rest
    match (if file = ['-'] then .ok input else w.read ⟨file⟩) with
    | .ok content => { more with stdout := content ++ more.stdout }
    | .error e =>
      let message := "cat: ".toList ++ file ++ ": ".toList ++ e.reason.toList ++ ['\n']
      { more with code := some 1, stderr := Utf8.encode message ++ more.stderr }

/-- Runs a program with arguments and an input.  Searches and counts are only known in the form in
which they are needed. -/
def run (p : SystemProgram) (w : Workspace) (arguments : List Text) (input : Bytes) :
    ProgramOutput × Workspace :=
  match p, arguments with
  | .find, root :: _ :: pattern :: _ => Find.run w ⟨root⟩ pattern
  | .grep, [_, _, path] => (Grep.run w ⟨path⟩, w)
  | .cat, [] => ({ code := some 0, stdout := input }, w)
  | .cat, files => (joined w input files, w)
  | .echo, arguments => ({ code := some 0, stdout := echoed arguments }, w)
  | .success, _ | .sleep, _ => ({ code := some 0 }, w)
  | .failure, _ => ({ code := some 1 }, w)
  | _, _ => ({ code := some 2 }, w)

end SystemProgram

end LogMigration
