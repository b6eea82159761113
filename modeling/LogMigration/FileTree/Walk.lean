import LogMigration.FileTree.Resolve

/-!
# Walking through links

A walk below a directory that follows links comes to an entry once for every way that leads to it.
It does not enter a directory that it is inside of already.

* `FileTree.walk` — what a walk that follows links comes to.
-/

set_option autoImplicit false

namespace LogMigration

/-- What a walk comes to, by the names from its start. -/
inductive WalkStep where
  | entry (names : List Text) (e : Entry)
  /-- A way back to a directory that the walk is inside of, which has names of its own. -/
  | loop (names outer : List Text)
  | broken (names : List Text) (e : IoError)
  deriving DecidableEq, Repr

namespace FileTree

/-- The entries in a directory, by name. -/
def children (t : FileTree) (l : Location) : List (Text × Entry) :=
  (t.below l).filterMap fun
    | ([name], e) => some (name, e)
    | _ => none

/-- What an entry of a directory is, through links: a location and what stands there.  A link that
leads nowhere is itself. -/
def followed (t : FileTree) (here : Location) (name : Text) : Except IoError (Location × Entry) :=
  match resolveFrom t true linkLimit here [name] with
  | .ok l => .ok (l, (t.get? l).getD .directory)
  | .error .tooManyLinks => .error .tooManyLinks
  | .error _ => .ok (here ++ [name], (t.get? (here ++ [name])).getD .directory)

/-- Walks below the innermost of the directories that the walk is inside of; each has the names that
lead to it.  The fuel bounds the depth. -/
def walkIn (t : FileTree) : Nat → List (Location × List Text) → List WalkStep
  | 0, _ => []
  | _ + 1, [] => []
  | fuel + 1, (here, names) :: outside =>
    (t.children here).flatMap fun (name, _) =>
      let path := names ++ [name]
      match t.followed here name with
      | .error e => [.broken path e]
      | .ok (l, .directory) =>
        match ((here, names) :: outside).find? fun d => d.1 = l with
        | some d => [.loop path d.2]
        | none => .entry path .directory :: walkIn t fuel ((l, path) :: (here, names) :: outside)
      | .ok (_, e) => [.entry path e]

/-- What a walk below a directory comes to, following links.  The directories that a walk is inside
of differ from each other, so their number bounds the depth. -/
def walk (t : FileTree) (l : Location) : List WalkStep :=
  t.walkIn (t.entries.length + 2) [(l, [])]

end FileTree

end LogMigration
