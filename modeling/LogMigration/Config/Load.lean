import LogMigration.Config.Document
import LogMigration.Log.Event
import LogMigration.Workspace

/-!
# Finding the configuration

A configuration file that is named has to be there.  Without a name the file in the working
directory is taken if it is there, and the defaults otherwise.

* `Config.load` — the configuration of a workspace.
* `Config.resolve` — the same, with values put over it.
-/

set_option autoImplicit false

namespace LogMigration

namespace Config

def defaultFile : Path := .ofString "console-to-logger.toml"

def ofFile (w : Workspace) (path : Path) : Except Failure Config :=
  match w.readText path with
  | .error e => .error (Failure.during (.readFile path) (.of (.io e)))
  | .ok s => (ofDocument s).mapError (Failure.during (.parseFile path))

/-- The configuration of a workspace, and what is logged about it. -/
def load (w : Workspace) : Option Path → Except Failure Config × List Event
  | some path => (ofFile w path, [])
  | none =>
    if w.isPresent defaultFile then (ofFile w defaultFile, [])
    else
      (.ok {}, [⟨.debug, .config, "no " ++ defaultFile.toString ++ " found, using defaults", []⟩])

/-- The configuration of a workspace with values put over it. -/
def resolve (w : Workspace) (file : Option Path) (overrides : Overrides) :
    Except Failure Config × List Event :=
  let loaded := load w file
  ((loaded.1.mapError (Failure.during .loadConfig)).bind fun c => c.override overrides, loaded.2)

end Config

end LogMigration
