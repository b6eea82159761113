import LogMigration.Config.Basic
import LogMigration.Program.Launch
import LogMigration.Scan.Builtin
import LogMigration.Scan.External

/-!
# The backends of a system

The external backend with the programs that the workspace launches, and the backend that a
configuration asks for.
-/

set_option autoImplicit false

namespace LogMigration

/-- The external backend with the programs of the workspace. -/
def External.backend {σ : Type} (tools : Tools) : CountBackend σ :=
  launching Workspace.launch tools

/-- The backend that a configuration asks for. -/
def Config.countBackend (c : Config) : CountBackend Unit :=
  match c.backend with
  | .builtin => Builtin.backend
  | .grep => External.backend {}

end LogMigration
