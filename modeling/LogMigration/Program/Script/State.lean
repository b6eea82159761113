import LogMigration.Program.Script.Syntax
import LogMigration.Workspace

/-!
# Running scripts: the state

What a running script has at hand: the workspace, its arguments and variables, where its input comes
from and where its output goes, and whether it goes on.

* `Script.State` — the state.
* `Script.State.emit`, `Script.State.complain` — printing.
* `Script.State.value?`, `Script.State.assign` — variables.
-/

set_option autoImplicit false

namespace LogMigration

namespace Script

/-- Where output goes. -/
inductive Sink where
  /-- One of the outputs that are collected. -/
  | buffer (n : Nat)
  | file (p : Path)
  | nothing
  /-- Nowhere: printing fails. -/
  | closed
  deriving DecidableEq, Repr

/-- What is left out before the script goes on. -/
inductive Jump where
  /-- The rest of a number of loops. -/
  | leave (loops : Nat)
  /-- The same, but the outermost of them goes on. -/
  | next (loops : Nat)
  /-- The rest of a function. -/
  | leaveFunction
  deriving DecidableEq, Repr

/-- A running script. -/
structure State where
  workspace : Workspace
  name : Text
  arguments : List Text
  /-- The variables that were set; one without a value was taken away. -/
  assigned : List (Text × Option Text) := []
  functions : List (Text × Command) := []
  /-- The variables that belong to the function that runs, if one does. -/
  locals : Option (List Text) := none
  status : Nat := 0
  input : Bytes := []
  /-- The collected outputs: the standard output, the error output, and those of commands whose
  output is taken for something else. -/
  buffers : List Bytes := [[], []]
  out : Sink := .buffer 0
  err : Sink := .buffer 1
  /-- How the script ended; a script that was killed has no status. -/
  ended : Option (Option Nat) := none
  jump : Option Jump := none
  /-- The number of loops around the command that runs. -/
  loops : Nat := 0
  /-- Whether a failure ends the script, and whether failures are expected here. -/
  stopsOnFailure : Bool := false
  tested : Bool := false
  /-- The commands that run at the end. -/
  atExit : Text := []

namespace State

/-- Whether the script does not go on here. -/
def stopped (s : State) : Bool := s.ended.isSome || s.jump.isSome

/-- The number of the process, as the script sees it. -/
def processNumber : Text := "4711".toList

/-! ## Variables -/

/-- The variables that a script finds set. -/
def environment (s : State) : List (Text × Option Text) :=
  [("PWD".toList, some s.workspace.directory.text), ("LC_ALL".toList, some ['C']),
    ("IFS".toList, some [' ', '\t', '\n'])]

/-- The value of a variable or of a special parameter, if it has one. -/
def value? (s : State) (name : Text) : Option Text :=
  if name = ['0'] then some s.name
  else if name = ['$'] then some processNumber
  else if name = ['?'] then some (toString s.status).toList
  else if name = ['#'] then some (toString s.arguments.length).toList
  else if name = ['@'] || name = ['*'] then
    if s.arguments = [] then none else some (Text.joinWith [' '] s.arguments)
  else if name ≠ [] && name.all Char.isDigit then
    s.arguments[name.foldl (fun v c => 10 * v + (c.toNat - '0'.toNat)) 0 - 1]?
  else ((s.assigned ++ s.environment).find? fun v => v.1 = name).bind Prod.snd

/-- The value of a variable; nothing counts as empty. -/
def value (s : State) (name : Text) : Text := (s.value? name).getD []

/-- The characters at which the result of an expansion is divided. -/
def separators (s : State) : Text := (s.value? "IFS".toList).getD [' ', '\t', '\n']

/-- The state with a variable set, or taken away. -/
def assign? (s : State) (name : Text) (value : Option Text) : State :=
  { s with assigned := (name, value) :: s.assigned.filter fun v => v.1 ≠ name }

/-- The state with a variable set. -/
def assign (s : State) (name value : Text) : State := s.assign? name (some value)

/-! ## Printing -/

/-- The state with bytes added to a place where output goes. -/
def send (s : State) (sink : Sink) (bytes : Bytes) : State :=
  match sink with
  | .nothing | .closed => s
  | .buffer n => { s with buffers := s.buffers.modify n (· ++ bytes) }
  | .file file =>
    match s.workspace.read file with
    | .error _ => s
    | .ok old =>
      match s.workspace.write file (old ++ bytes) with
      | .ok workspace | .error (_, workspace) => { s with workspace }

/-- The state with bytes on the standard output. -/
def emit (s : State) (bytes : Bytes) : State := s.send s.out bytes

/-- The state with a message on the error output. -/
def complain (s : State) (line : Nat) (message : Text) : State :=
  s.send s.err (Utf8.encode (s.name ++ ": ".toList ++ (toString line).toList ++ ": ".toList
    ++ message ++ ['\n']))

/-- The state after a command has ended with a status. -/
def done (s : State) (status : Nat) : State := { s with status }

/-- The state of a script that has ended with a status. -/
def ending (s : State) (status : Nat) : State := { s with status, ended := some (some status) }

/-- The state after commands that ran apart: what they did to files and what they printed stays. -/
def rejoin (outer inner : State) : State :=
  { outer with
    workspace := { inner.workspace with cwd := outer.workspace.cwd }
    buffers := inner.buffers
    input := inner.input
    status := match inner.ended with
      | some (some status) => status
      | _ => inner.status
    ended := if inner.ended = some none then some none else none }

end State

end Script

end LogMigration
