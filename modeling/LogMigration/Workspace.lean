import LogMigration.FileTree.Resolve

/-!
# Workspaces

A workspace is all that a run can see and change: a file tree, the working directory in it, the
files in it that cannot be written, and the place where programs are looked for.

* `WriteFault` — what keeps a file from being written, and what is left in it.
* `Workspace.write` — what comes of writing a file.

Every file that there is can be read and every directory can be listed: permissions to read and to
search are not part of a workspace, nor are faults that come and go.
-/

set_option autoImplicit false

namespace LogMigration

/-- Where a program without a slash in its name is looked for. -/
inductive ProgramPath where
  /-- The system's directories, which hold `find` and `grep`. -/
  | system
  /-- One directory of the tree. -/
  | only (directory : Path)
  deriving DecidableEq, Repr

/-- What keeps a file from being written. -/
inductive WriteFault where
  /-- The file cannot be opened for writing. -/
  | refused (error : IoError)
  /-- The file is emptied, and then there is room for so many bytes. -/
  | full (error : IoError) (room : Nat)
  deriving DecidableEq, Repr

/-- A file tree with a working directory, where programs are looked for and what cannot be
written. -/
structure Workspace where
  tree : FileTree
  cwd : Location := []
  programs : ProgramPath := .system
  /-- The files that cannot be written; a file is asked for by its location, not by a path. -/
  faults : List (Location × WriteFault) := []
  deriving DecidableEq, Repr

namespace Workspace

/-- The absolute path of a location. -/
def pathOf (l : Location) : Path := ⟨'/' :: Text.joinWith ['/'] l⟩

def directory (w : Workspace) : Path := pathOf w.cwd

def read (w : Workspace) (p : Path) : Except IoError Bytes := w.tree.read w.cwd p

def readText (w : Workspace) (p : Path) : Except IoError Text := w.tree.readText w.cwd p

/-- What keeps the file at a location from being written. -/
def faultAt? (w : Workspace) (l : Location) : Option WriteFault :=
  (w.faults.find? fun f => f.1 = l).map Prod.snd

/-- What keeps the file that a path names from being written. -/
def fault? (w : Workspace) (p : Path) : Option WriteFault :=
  (w.tree.resolve w.cwd p true).toOption.bind w.faultAt?

/-- The workspace with the content of a file set, as far as the tree allows it. -/
def store (w : Workspace) (p : Path) (content : Bytes) : Except IoError Workspace :=
  (w.tree.write w.cwd p content).map fun tree => { w with tree }

/-- Writes a file.  A write that fails may leave the beginning of the content behind. -/
def write (w : Workspace) (p : Path) (content : Bytes) : Except (IoError × Workspace) Workspace :=
  match w.fault? p with
  | none => (w.store p content).mapError fun e => (e, w)
  | some (.refused error) => .error (error, w)
  | some (.full error room) =>
    match w.store p (content.take room) with
    | .error e => .error (e, w)
    | .ok left => if content.length ≤ room then .ok left else .error (error, left)

def isPresent (w : Workspace) (p : Path) : Bool := w.tree.isPresent w.cwd p

def isDirectory (w : Workspace) (p : Path) : Bool := w.tree.isDirectory w.cwd p

end Workspace

end LogMigration
