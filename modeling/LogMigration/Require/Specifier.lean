import LogMigration.Path.Basic

/-!
# Module specifiers

The specifier of the logger module as a file has to write it: one `../` for every directory between
the tree root and the file.

* `LoggerTarget` — where the logger lives and what it is called.
* `LoggerTarget.depth` — the directories between the tree root and a file.
* `LoggerTarget.specifier` — the relative specifier.
-/

set_option autoImplicit false

namespace LogMigration

/-- Where the structured logger lives and how converted code refers to it. -/
structure LoggerTarget where
  /-- The directory that the module's path starts from. -/
  treeRoot : Path := ⟨".".toList⟩
  /-- The module's path without its ending. -/
  module : Text := "utils/logger".toList
  /-- The name that the module is bound to. -/
  binding : Text := "logger".toList
  deriving DecidableEq, Repr

namespace LoggerTarget

/-- Whether the file lies in the tree below the tree root, or is the tree root. -/
def covers (cwd : Path) (target : LoggerTarget) (file : Path) : Bool :=
  (target.treeRoot.absolute cwd).isPrefixOf (file.absolute cwd)

/-- The components of the file from the tree root, or from the filesystem root for a file outside
the tree. -/
def located (cwd : Path) (target : LoggerTarget) (file : Path) : List Path.Component :=
  if target.covers cwd file then
    (file.absolute cwd).drop (target.treeRoot.absolute cwd).length
  else file.absolute cwd

/-- The number of names among the components. -/
def names (cs : List Path.Component) : Nat :=
  cs.countP fun
    | .normal _ => true
    | _ => false

/-- The directories between the tree root and the file. -/
def depth (cwd : Path) (target : LoggerTarget) (file : Path) : Nat :=
  names (target.located cwd file) - 1

/-- The specifier with which the file requires the logger.  It is always relative. -/
def specifier (cwd : Path) (target : LoggerTarget) (file : Path) : Text :=
  match target.depth cwd file with
  | 0 => "./".toList ++ target.module
  | n => (List.replicate n "../".toList).flatten ++ target.module

end LoggerTarget

end LogMigration
