import LogMigration.Failure
import LogMigration.FileTree.Basic

/-!
# Paths in a file tree

A path is followed from a directory, segment by segment.  A link on the way is replaced by its
target; a link at the very end is followed or not, as the caller wishes.

* `FileTree.resolve` — the location that a path names.
* `FileTree.read`, `FileTree.write` — a file's content by path.
* `FileTree.isDirectory`, `FileTree.isPresent` — what a path names, through links.
-/

set_option autoImplicit false

namespace LogMigration

namespace FileTree

/-- The segments of a path, with `.` for a final slash: what precedes it has to be a directory. -/
def segments (p : Path) : List Text :=
  let names := (Text.splitAt '/' p.text).filter (· ≠ [])
  if p.text.getLast? = some '/' then names ++ [['.']] else names

/-- Follows segments from a location through at most `links` links. -/
def resolveFrom (t : FileTree) (follow : Bool) (links : Nat) (here : Location) :
    List Text → Except IoError Location
  | [] => .ok here
  | name :: rest =>
    match t.get? here with
    | some .directory =>
      if name = ['.'] then resolveFrom t follow links here rest
      else if name = ['.', '.'] then resolveFrom t follow links here.dropLast rest
      else
        match t.get? (here ++ [name]) with
        | none => .error .notFound
        | some (.link target) =>
          if rest = [] && !follow then .ok (here ++ [name])
          else
            match links with
            | 0 => .error .tooManyLinks
            | links + 1 =>
              resolveFrom t follow links (if target.isAbsolute then [] else here)
                (segments target ++ rest)
        | some _ => resolveFrom t follow links (here ++ [name]) rest
    | _ => .error .notADirectory
  termination_by segments => (links, segments.length)

/-- The most links that are followed on the way to an entry. -/
def linkLimit : Nat := 40

/-- The most bytes of a name. -/
def nameLimit : Nat := 255

/-- The location that a path names, seen from the directory `cwd`. -/
def resolve (t : FileTree) (cwd : Location) (p : Path) (follow : Bool) : Except IoError Location :=
  if '\x00' ∈ p.text then .error .nulInPath
  else if p.text = [] then .error .notFound
  else if (segments p).any fun s => nameLimit < (Utf8.encode s).length then .error .nameTooLong
  else resolveFrom t follow linkLimit (if p.isAbsolute then [] else cwd) (segments p)

/-- The entry that a path names, through links. -/
def entry (t : FileTree) (cwd : Location) (p : Path) : Except IoError Entry :=
  match t.resolve cwd p true with
  | .error e => .error e
  | .ok l =>
    match t.get? l with
    | some e => .ok e
    | none => .error .notFound

def isPresent (t : FileTree) (cwd : Location) (p : Path) : Bool := (t.entry cwd p).isOk

def isDirectory (t : FileTree) (cwd : Location) (p : Path) : Bool :=
  match t.entry cwd p with
  | .ok .directory => true
  | _ => false

def read (t : FileTree) (cwd : Location) (p : Path) : Except IoError Bytes :=
  match t.entry cwd p with
  | .ok (.file content _) => .ok content
  | .ok _ => .error .isADirectory
  | .error e => .error e

def readText (t : FileTree) (cwd : Location) (p : Path) : Except IoError Text :=
  match t.read cwd p with
  | .error e => .error e
  | .ok bytes =>
    match Utf8.decode bytes with
    | .ok s => .ok s
    | .error _ => .error .invalidText

/-- The directory that a path's last name is in, and that name. -/
def parentOf (t : FileTree) (cwd : Location) (p : Path) : Except IoError (Location × Text) :=
  match (segments p).getLast? with
  | none => .error .notFound
  | some name =>
    let start := if p.isAbsolute then [] else cwd
    match resolveFrom t true linkLimit start (segments p).dropLast with
    | .error e => .error e
    | .ok here =>
      match t.get? here with
      | some .directory => .ok (here, name)
      | _ => .error .notADirectory

/-- The tree with the content of a file set.  A missing file is made in an existing directory. -/
def write (t : FileTree) (cwd : Location) (p : Path) (content : Bytes) : Except IoError FileTree :=
  match t.resolve cwd p true with
  | .ok l =>
    match t.get? l with
    | some (.file _ executable) => .ok (t.put l (.file content executable))
    | _ => .error .isADirectory
  | .error .notFound =>
    match t.parentOf cwd p with
    | .ok (here, name) => .ok (t.put (here ++ [name]) (.file content false))
    | .error e => .error e
  | .error e => .error e

/-! ## Laying out a tree -/

/-- The tree with all directories on the way of the segments, and the location they lead to. -/
def makeDirectories (t : FileTree) (here : Location) : List Text → FileTree × Location
  | [] => (t, here)
  | name :: rest =>
    match resolveFrom t true linkLimit here [name] with
    | .ok l => makeDirectories t l rest
    | .error _ => makeDirectories (t.put (here ++ [name]) .directory) (here ++ [name]) rest

/-- The tree with an entry at a path.  Missing directories on the way are made; a file that is put
where a link stands goes to the link's target, and one that replaces an executable file stays
executable. -/
def place (t : FileTree) (cwd : Location) (p : Path) (e : Entry) : FileTree :=
  let start := if p.isAbsolute then [] else cwd
  let names := segments p
  let made := makeDirectories t start names.dropLast
  match names.getLast? with
  | none => t
  | some name =>
    match e with
    | .directory => (makeDirectories t start names).1
    | .link _ => made.1.put (made.2 ++ [name]) e
    | .file content executable =>
      match resolveFrom made.1 true linkLimit made.2 [name] with
      | .ok l =>
        match made.1.get? l with
        | some (.file _ old) => made.1.put l (.file content (executable || old))
        | _ => made.1.put l e
      | .error _ => made.1.put (made.2 ++ [name]) e

/-- The tree without what a path names, and without all below it.  A link is taken out itself. -/
def discard (t : FileTree) (cwd : Location) (p : Path) : FileTree :=
  match t.resolve cwd p false with
  | .ok l => t.remove l
  | .error _ => t

end FileTree

end LogMigration
