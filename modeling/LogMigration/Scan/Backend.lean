import LogMigration.Workspace

/-!
# Counting backends

A backend lists the files below a directory and counts console statements in one file.  It acts on
the workspace and on a state of its own, so its answers may change from one question to the next.
-/

set_option autoImplicit false

namespace LogMigration

/-- A way of listing files and of counting statements, with a state of its own of type `σ`. -/
structure CountBackend (σ : Type) where
  name : String
  /-- The files below a directory that have an extension. -/
  enumerate : Path → Text → Workspace × σ → Except Failure (List Path) × (Workspace × σ)
  /-- The number of lines of a file that hold a console statement. -/
  count : Path → Workspace × σ → Except QueryError Nat × (Workspace × σ)

end LogMigration
