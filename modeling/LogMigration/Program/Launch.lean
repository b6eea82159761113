import LogMigration.Program.Script.Run

/-!
# Launching programs

A program is given by its name: a path to a file of the workspace, or a bare name that is looked for
where programs are.  A file has to be executable and to say that it is a command script.

* `Workspace.program` — what a name launches.
* `Workspace.launch` — what a program leaves behind, and the workspace after it.
* `Workspace.which?` — where a program is found.
-/

set_option autoImplicit false

namespace LogMigration

/-- What can be launched. -/
inductive Program where
  | system (p : SystemProgram)
  /-- A script, with the path it is launched by and the options of its first line. -/
  | script (path : Path) (options source : Text)
  deriving DecidableEq, Repr

namespace Workspace

def interpreters : List String := ["/bin/sh", "/usr/bin/sh", "/bin/dash", "/usr/bin/dash"]

/-- The interpreter that the first line of a file names after `#!`, and what follows its path. -/
def interpreter? (source : Text) : Option (Text × Text) :=
  let isBlank (c : Char) : Bool := c = ' ' || c = '\t'
  (Text.dropPrefix? "#!".toList source).map fun rest =>
    let line := (rest.takeWhile (· ≠ '\n')).dropWhile isBlank
    let line := (line.reverse.dropWhile isBlank).reverse
    (line.takeWhile (!isBlank ·), (line.dropWhile (!isBlank ·)).dropWhile isBlank)

/-- The program that a file is. -/
def programFile (w : Workspace) (path : Path) : Except IoError Program :=
  match w.tree.entry w.cwd path with
  | .error e => .error e
  | .ok (.file content true) =>
    let source := Utf8.decodeLossy content
    match interpreter? source with
    | none => .error .noExecutable
    | some (interpreter, options) =>
      if interpreters.any fun i => i.toList = interpreter then .ok (.script path options source)
      else .error .notFound
  | .ok _ => .error .permissionDenied

/-- What a name launches. -/
def program (w : Workspace) (name : Text) : Except IoError Program :=
  if '\x00' ∈ name then .error .nulInArgument
  else if name = [] then .error .notFound
  else if '/' ∈ name then
    match SystemProgram.ofName? name with
    | some p => .ok (.system p)
    | none => w.programFile ⟨name⟩
  else
    match w.programs with
    | .system =>
      match SystemProgram.ofName? name with
      | some p => .ok (.system p)
      | none => .error .notFound
    | .only directory => w.programFile (directory.join name)

def launch (w : Workspace) (name : Text) (arguments : List Text) :
    Except IoError (ProgramOutput × Workspace) :=
  match w.program name with
  | .error e => .error e
  | .ok p =>
    if arguments.any fun a => '\x00' ∈ a then .error .nulInArgument
    else
      match p with
      | .system p => .ok (p.run w arguments [])
      | .script path options source => .ok (Script.run w path.text options arguments source)

/-- A program of the system is launched by its name, if no argument holds a NUL character. -/
theorem launch_of_system {w : Workspace} (hprograms : w.programs = .system) (p : SystemProgram)
    {arguments : List Text} (harguments : ∀ a ∈ arguments, '\x00' ∉ a) :
    w.launch p.name.toList arguments = .ok (p.run w arguments []) := by
  have plain : '\x00' ∉ p.name.toList ∧ p.name.toList ≠ [] ∧ '/' ∉ p.name.toList := by
    cases p <;> decide
  have found : SystemProgram.ofName? p.name.toList = some p := by cases p <;> decide
  have free : (arguments.any fun a => '\x00' ∈ a) = false := by simpa using harguments
  simp only [launch, program, plain, hprograms, found, free, if_false, Bool.false_eq_true]

def which? (w : Workspace) (name : Text) : Option Path :=
  match w.programs with
  | .system => (SystemProgram.ofName? name).map fun _ => Path.join (.ofString "/usr/bin") name
  | .only directory =>
    let path := directory.join name
    match w.tree.entry w.cwd path with
    | .ok (.file _ true) => some path
    | _ => none

end Workspace

end LogMigration
