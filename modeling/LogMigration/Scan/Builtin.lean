import LogMigration.Call.Console
import LogMigration.Scan.Backend

/-!
# The builtin backend

Walks the tree below the root and counts in the text of each file, reading bytes that are not UTF-8
as replacement characters.  Links are not followed, except one that the root itself is.

* `FileTree.filesBelow` — the files below a directory as the walk names them.
* `Builtin.backend` — the backend.
-/

set_option autoImplicit false

namespace LogMigration

/-- The files below a directory: their names from there, and the path that the walk gives them. -/
def FileTree.filesBelow (t : FileTree) (cwd : Location) (root : Path) : List (List Text × Path) :=
  match t.resolve cwd root true with
  | .error _ => []
  | .ok l =>
    (t.below l).filterMap fun
      | (names, .file _ _) => some (names, names.foldl Path.join root)
      | _ => none

namespace Builtin

/-- The files below a directory with an extension. -/
def enumerate (w : Workspace) (root : Path) (extension : Text) : Except Failure (List Path) :=
  if w.isDirectory root then
    .ok ((w.tree.filesBelow w.cwd root).filterMap fun (names, path) =>
      if names.getLast?.bind Path.nameExtension? = some extension then some path else none)
  else .error (.of (.notADirectory root))

/-- The number of lines of a file with a statement. -/
def count (w : Workspace) (path : Path) : Except QueryError Nat :=
  match w.read path with
  | .ok bytes => .ok (Console.count (Utf8.decodeLossy bytes))
  | .error e => .error (.read path e)

def backend {σ : Type} : CountBackend σ where
  name := "builtin"
  enumerate root extension s := (enumerate s.1 root extension, s)
  count path s := (count s.1 path, s)

end Builtin

end LogMigration
