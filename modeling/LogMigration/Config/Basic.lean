import LogMigration.Failure
import LogMigration.Require.Specifier
import LogMigration.Text.LowerCase

/-!
# Configuration

What to scan, how to count, and which logger the converted code calls.

* `Config` — the configuration with its defaults.
* `BackendKind.parse` — a way of counting by its name, in any case.
* `Config.override` — values that take precedence over the configuration.
-/

set_option autoImplicit false

namespace LogMigration

/-- How files are listed and statements counted. -/
inductive BackendKind where
  /-- By walking the tree and reading the files. -/
  | builtin
  /-- By the programs `find` and `grep`. -/
  | grep
  deriving DecidableEq, Repr

namespace BackendKind

/-- The name in a report. -/
def label : BackendKind → String
  | .builtin => "Builtin"
  | .grep => "Grep"

/-- The kind with a name, in any case. -/
def parse (name : Text) : Except Failure BackendKind :=
  let lowered := Text.toLower name
  if lowered = "builtin".toList then .ok .builtin
  else if lowered = "grep".toList then .ok .grep
  else .error (.of (.unsupportedBackend lowered))

end BackendKind

/-- What to scan and how to convert it. -/
structure Config where
  backend : BackendKind := .builtin
  /-- The directory that is scanned. -/
  root : Path := ⟨"src".toList⟩
  /-- The extension of the files that are scanned. -/
  extension : Text := "js".toList
  /-- Patterns for files below the root that are left out. -/
  exclude : List Glob := []
  logger : LoggerTarget := {}
  deriving DecidableEq, Repr

/-- Values that take precedence over a configuration. -/
structure Overrides where
  root : Option Path := none
  backend : Option Text := none
  treeRoot : Option Path := none
  deriving DecidableEq, Repr

namespace Config

def override (c : Config) (o : Overrides) : Except Failure Config := do
  let backend ← match o.backend with
    | some name => BackendKind.parse name
    | none => .ok c.backend
  return { c with
    root := o.root.getD c.root
    backend
    logger := { c.logger with treeRoot := o.treeRoot.getD c.logger.treeRoot } }

/-- Whether a text can name a variable: letters, digits, `_` and `$`, and no digit first. -/
def isIdentifier : Text → Bool
  | [] => false
  | c :: cs =>
    (c.isAlpha || c = '_' || c = '$') && cs.all fun d => d.isAlphanum || d = '_' || d = '$'

/-- A module's path without a leading `./` and without the ending `.js`. -/
def bareModule (m : Text) : Text :=
  Text.dropSuffix ".js".toList ((Text.dropPrefix? "./".toList m).getD m)

end Config

end LogMigration
