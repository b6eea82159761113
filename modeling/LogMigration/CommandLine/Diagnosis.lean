import LogMigration.Config.Load
import LogMigration.Program.Launch

/-!
# Diagnosis of a workspace

Which programs are there, and which configuration is in effect.

* `Diagnosis.programs`, `Diagnosis.configuration` — the two parts of the text.
* `Diagnosis.missing` — the programs that the chosen way of counting needs and that are not there.
-/

set_option autoImplicit false

namespace LogMigration

namespace Diagnosis

/-- The programs that are looked for. -/
def looked : List String := ["find", "grep", "node"]

/-- The programs that counting with `grep` needs. -/
def needed : List String := ["find", "grep"]

/-- A line with a label in ten columns. -/
def entry (label value : String) : String :=
  label ++ "".pushn ' ' (10 - label.length) ++ " : " ++ value

def programs (w : Workspace) : List String :=
  "== Tool presence ==" :: looked.map fun name =>
    entry name (((w.which? name.toList).map Path.toString).getD "not found")

def configuration (w : Workspace) (c : Config) : List String :=
  ["", "== Configuration ==",
    entry "backend" c.backend.label,
    entry "root" (c.root.toString ++ " (*." ++ String.ofList c.extension
      ++ (if w.isDirectory c.root then "" else ", missing") ++ ")"),
    entry "tree root" c.logger.treeRoot.toString,
    entry "logger" ("const " ++ String.ofList c.logger.binding ++ " = require('<../>"
      ++ String.ofList c.logger.module ++ "')")]
  ++ (if c.exclude.isEmpty then []
    else [entry "exclude" (", ".intercalate (c.exclude.map fun g => String.ofList g.source))])

/-- The programs that the configuration needs and that are not there. -/
def missing (w : Workspace) (c : Config) : List String :=
  match c.backend with
  | .builtin => []
  | .grep => needed.filter fun name => (w.which? name.toList).isNone

end Diagnosis

end LogMigration
