import LogMigration.CommandLine.Session

/-!
# The program

Takes a picture of the working directory and of the places that a request names, lets a session act
on the picture, and writes back the files that the session has changed.
-/

set_option autoImplicit false

namespace LogMigration

/-- What has been seen of the disk so far, and the places that have been looked at. -/
structure Picture where
  tree : FileTree := .empty
  seen : List Location := []

namespace Picture

/-- The names of an absolute path. -/
def locationOf (place : String) : Location := (Text.splitAt '/' place.toList).filter (· ≠ [])

/-- The picture with an entry, and with the directories above it. -/
def add (p : Picture) (l : Location) (e : Entry) : Picture :=
  let above := (List.range l.length).map l.take
  let missing := above.filter fun d => (p.tree.get? d).isNone
  { p with tree := (missing.foldl (fun t d => t.put d .directory) p.tree).put l e }

/-- The picture with a place and all below it.  A place that cannot be read is left out. -/
partial def look (p : Picture) (place : String) : IO Picture := do
  try
    let real ← IO.FS.realPath place
    let here := locationOf real.toString
    if p.seen.contains here then return p
    let p := { p with seen := here :: p.seen }
    if ← real.isDir then
      let mut p := if here = [] then p else p.add here .directory
      for entry in ← real.readDir do
        let target ← IO.FS.realPath entry.path
        if target != entry.path then
          p := p.add (locationOf entry.path.toString) (.link (.ofString target.toString))
        p ← p.look target.toString
      return p
    else
      let content ← IO.FS.readBinFile real
      return p.add here (.file content.toList false)
  catch _ => return p

/-- The workspace that the picture shows, seen from a directory. -/
def workspace (p : Picture) (directory : String) : Workspace :=
  { tree := p.tree, cwd := locationOf directory }

end Picture

/-- The workspace that the arguments need. -/
def pictureFor (arguments : List Text) (directory : String) : IO Workspace := do
  match Request.parse arguments with
  | .error _ => return Picture.workspace {} directory
  | .ok request =>
    let mut picture ← Picture.look {} directory
    for path in request.config.toList do
      picture ← picture.look path.toString
    match Config.resolve (picture.workspace directory) request.config request.overrides with
    | (.ok config, _) => picture ← picture.look config.root.toString
    | (.error _, _) => pure ()
    return picture.workspace directory

/-- Writes the files of a tree that differ from those of another. -/
def writeChanges (before after : FileTree) : IO Unit := do
  for (l, e) in after.entries do
    if before.get? l ≠ some e then
      match e with
      | .file content _ =>
        IO.FS.writeBinFile (Workspace.pathOf l).toString ⟨content.toArray⟩
      | _ => pure ()

end LogMigration

open LogMigration

def main (arguments : List String) : IO UInt32 := do
  let arguments := arguments.map String.toList
  let directory := (← IO.currentDir).toString
  let filter ← IO.getEnv "RUST_LOG"
  let workspace ← pictureFor arguments directory
  let session := Session.ofArguments workspace arguments (filter.map String.toList)
  writeChanges workspace.tree session.workspace.tree
  (← IO.getStdout).putStr session.stdout
  (← IO.getStderr).putStr session.stderr
  return UInt32.ofNat session.code
