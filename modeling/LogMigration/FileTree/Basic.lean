import LogMigration.Path.Basic
import LogMigration.Text.Utf8

/-!
# File trees

A file tree says what stands at each location.  A location is the list of names from the filesystem
root, without links, `.` or `..`; the root itself is always a directory.

Names are texts, so a name that is not UTF-8 has no place in a tree.  Nor have permissions, except
that a file may be executable: what keeps a file from being written is known to the workspace, and
everything can be read.

* `FileTree.get?` — what stands at a location.
* `FileTree.put`, `FileTree.remove` — the tree with an entry put in place, or taken out with all
  below it.
* `FileTree.below` — the entries below a location.

`get?_put_self` and `get?_put_of_ne` say that putting an entry changes that one location only.
-/

set_option autoImplicit false

namespace LogMigration

/-- The names from the filesystem root to an entry. -/
abbrev Location := List Text

/-- What stands at a location. -/
inductive Entry where
  | file (content : Bytes) (executable : Bool)
  | directory
  | link (target : Path)
  deriving DecidableEq, Repr

/-- What stands at each location, in the order in which it was put there. -/
structure FileTree where
  entries : List (Location × Entry)
  deriving DecidableEq, Repr

namespace FileTree

def empty : FileTree := ⟨[]⟩

/-- What stands at a location. -/
def get? (t : FileTree) (l : Location) : Option Entry :=
  if l = [] then some .directory else (t.entries.find? fun e => e.1 = l).map Prod.snd

/-- Replaces the entry at a location in a list of entries, or adds it at the end. -/
def replaceEntry (l : Location) (e : Entry) : List (Location × Entry) → List (Location × Entry)
  | [] => [(l, e)]
  | p :: ps => if p.1 = l then (l, e) :: ps else p :: replaceEntry l e ps

/-- The tree with an entry at a location. -/
def put (t : FileTree) (l : Location) (e : Entry) : FileTree := ⟨replaceEntry l e t.entries⟩

/-- The tree without the entry at a location and without all below it. -/
def remove (t : FileTree) (l : Location) : FileTree :=
  ⟨t.entries.filter fun e => !l.isPrefixOf e.1⟩

/-- The names from one location down to another one below it. -/
def namesBelow? : Location → Location → Option (List Text)
  | [], l => some l
  | _ :: _, [] => none
  | n :: base, m :: l => if n = m then namesBelow? base l else none

/-- The entries below a location, each with its names from there. -/
def below (t : FileTree) (l : Location) : List (List Text × Entry) :=
  t.entries.filterMap fun e =>
    match namesBelow? l e.1 with
    | some [] | none => none
    | some names => some (names, e.2)

theorem get?_put_self (t : FileTree) {l : Location} (h : l ≠ []) (e : Entry) :
    (t.put l e).get? l = some e := by
  have find_self : ∀ ps : List (Location × Entry),
      (replaceEntry l e ps).find? (fun p => p.1 = l) = some (l, e) := by
    intro ps
    induction ps with
    | nil => simp [replaceEntry]
    | cons p ps ih =>
      by_cases hp : p.1 = l
      · simp [replaceEntry, hp]
      · simp [replaceEntry, hp, ih]
  simp [get?, put, h, find_self]

theorem get?_put_of_ne (t : FileTree) {l m : Location} (h : m ≠ l) (e : Entry) :
    (t.put l e).get? m = t.get? m := by
  have find_other : ∀ ps : List (Location × Entry),
      (replaceEntry l e ps).find? (fun p => p.1 = m) = ps.find? (fun p => p.1 = m) := by
    intro ps
    induction ps with
    | nil => simp [replaceEntry, Ne.symm h]
    | cons p ps ih =>
      by_cases hp : p.1 = l
      · have hm : ¬ l = m := fun hlm => h hlm.symm
        simp [replaceEntry, hp, hm]
      · by_cases hpm : p.1 = m
        · simp [replaceEntry, hpm, h]
        · simp [replaceEntry, hp, hpm, ih]
  simp only [get?, put, find_other]

end FileTree

end LogMigration
