import LogMigration.Text.Basic

/-!
# Paths

A path is kept as it was written.  What it means is the list of its components: repeated slashes
and `.` segments say nothing, except that a relative path may begin with `.`, and `..` stays as it
is.

* `Path.components` — the components of a path.
* `Path.absolute` — the components from the filesystem root, given the working directory.
* `Path.relativeTo?` — the part of a path below another one, as it was written.
* `Path.join`, `Path.fileName?`, `Path.extension?` — building paths and taking names apart.
-/

set_option autoImplicit false

namespace LogMigration

/-- A path as it was written. -/
structure Path where
  text : Text
  deriving DecidableEq, Repr

namespace Path

def ofString (s : String) : Path := ⟨s.toList⟩

def toString (p : Path) : String := String.ofList p.text

/-- What a path is made of. -/
inductive Component where
  /-- The filesystem root. -/
  | root
  /-- A leading `.` of a relative path. -/
  | current
  /-- `..` -/
  | parent
  /-- A name. -/
  | normal (name : Text)
  deriving DecidableEq, Repr

def isAbsolute (p : Path) : Bool := p.text.head? = some '/'

/-- A segment between slashes, after the first one: nothing and `.` say nothing. -/
def bodyComponent? : Text → Option Component
  | [] => none
  | ['.'] => none
  | ['.', '.'] => some .parent
  | name => some (.normal name)

def components (p : Path) : List Component :=
  let segments := Text.splitAt '/' p.text
  let lead := if p.isAbsolute then [Component.root]
    else if segments.head? = some ['.'] then [Component.current]
    else []
  lead ++ segments.filterMap bodyComponent?

/-- The components that count: all but a leading `.`. -/
def steps (p : Path) : List Component := p.components.filter (· ≠ .current)

/-- The components from the filesystem root, for a path that is relative to the directory `cwd`.
The empty path stays empty. -/
def absolute (p cwd : Path) : List Component :=
  if p.text = [] then []
  else if p.isAbsolute then p.steps
  else cwd.steps ++ p.steps

/-! ## The part below another path -/

/-- Drops slashes and `.` segments at the start of a text.  Applied to a text in reverse it drops
them at the end. -/
def trimBlank : Text → Text
  | [] => []
  | '/' :: cs => trimBlank cs
  | ['.'] => []
  | '.' :: '/' :: cs => trimBlank cs
  | c :: cs => c :: cs

/-- Drops slashes and `.` segments at both ends of a text. -/
def trimBlanks (s : Text) : Text := (trimBlank (trimBlank s).reverse).reverse

/-- Drops the first `n` segments that say something. -/
def dropSegments : Nat → Text → Text
  | 0, s => s
  | n + 1, s => dropSegments n ((trimBlank s).dropWhile (· ≠ '/'))

/-- The length of the text that stands for a first component `/` or `.`. -/
def leadLength (p : Path) : Nat :=
  match p.components.head? with
  | some .root | some .current => 1
  | _ => 0

/-- The part of `p` below `base`, component by component, as it was written in `p` but without
slashes and `.` segments around it.  Below a path without components everything is kept, and only
the end is trimmed. -/
def relativeTo? (p base : Path) : Option Path :=
  let k := p.leadLength
  if base.components.isPrefixOf p.components then
    match base.components.length with
    | 0 => some ⟨p.text.take k ++ (trimBlank (p.text.drop k).reverse).reverse⟩
    | n => some ⟨trimBlanks (dropSegments (n - k) (p.text.drop k))⟩
  else none

/-! ## Names -/

/-- The directory `p` followed by the entry `name`; a slash is added unless `p` is empty or ends in
one. -/
def join (p : Path) (name : Text) : Path :=
  if p.text = [] ∨ p.text.getLast? = some '/' then ⟨p.text ++ name⟩ else ⟨p.text ++ '/' :: name⟩

/-- The name that the path ends in, unless it ends in `..` or names no entry. -/
def fileName? (p : Path) : Option Text :=
  match p.components.getLast? with
  | some (.normal name) => some name
  | _ => none

/-- What follows the last dot of a name.  A name whose only dot comes first has no extension. -/
def nameExtension? (name : Text) : Option Text :=
  let rest := name.reverse.dropWhile (· ≠ '.')
  match rest with
  | [] => none
  | _ :: stem => if stem = [] then none else some (name.reverse.takeWhile (· ≠ '.')).reverse

def extension? (p : Path) : Option Text := p.fileName?.bind nameExtension?

end Path

end LogMigration
