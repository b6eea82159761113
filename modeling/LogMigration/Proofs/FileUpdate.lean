import LogMigration.Proofs.TreePath
import LogMigration.Workspace

/-!
# Files changed in place

A run changes what files hold and nothing else of a tree.  Such a change is a function of the
location and the content, and every path leads to where it led before.

* `FileTree.mapFiles` — the tree with the files changed.
* `get?_mapFiles`, `resolve_mapFiles` — what stands at a location, and where a path leads.
* `mapFiles_mapFiles`, `mapFiles_congr` — changes after each other, and changes that agree.
* `onlyAt`, `put_eq_mapFiles` — one file changed, which is what writing over it does.
* `Workspace.stored`, `Workspace.writeError?` — what a write leaves in a file, and why it fails;
  `write_of_resolve` says that a write comes to this, whether it fails or not.
-/

set_option autoImplicit false

namespace LogMigration

/-- An entry with the content changed, if it is a file. -/
def Entry.mapContent (f : Bytes → Bytes) : Entry → Entry
  | .file content executable => .file (f content) executable
  | .directory => .directory
  | .link target => .link target

namespace FileTree

/-- The tree with the content of each file changed. -/
def mapFiles (f : Location → Bytes → Bytes) (t : FileTree) : FileTree :=
  ⟨t.entries.map fun p => (p.1, p.2.mapContent (f p.1))⟩

variable {t : FileTree} {f g : Location → Bytes → Bytes}

theorem locations_mapFiles :
    (t.mapFiles f).entries.map Prod.fst = t.entries.map Prod.fst := by
  simp [mapFiles]

@[simp]
theorem get?_mapFiles (l : Location) :
    (t.mapFiles f).get? l = (t.get? l).map (Entry.mapContent (f l)) := by
  unfold get? mapFiles
  split
  · rfl
  · rw [List.find?_map, Option.map_map, Option.map_map]
    refine Option.map_congr fun p hp => ?_
    obtain rfl : p.1 = l := by simpa using List.find?_some hp
    rfl

theorem mapFiles_mapFiles :
    (t.mapFiles f).mapFiles g = t.mapFiles fun l content => g l (f l content) := by
  simp only [mapFiles, List.map_map, FileTree.mk.injEq]
  refine List.map_congr_left fun p _ => ?_
  cases h : p.2 <;> simp [Entry.mapContent, h]

theorem mapFiles_congr
    (h : ∀ l content executable, (l, .file content executable) ∈ t.entries →
      f l content = g l content) : t.mapFiles f = t.mapFiles g := by
  simp only [mapFiles, FileTree.mk.injEq]
  refine List.map_congr_left fun p hp => ?_
  obtain ⟨l, e⟩ := p
  cases e with
  | file content executable => simp only [Entry.mapContent, h l content executable hp]
  | directory => rfl
  | link target => rfl

theorem mapFiles_eq_self
    (h : ∀ l content executable, (l, .file content executable) ∈ t.entries →
      f l content = content) : t.mapFiles f = t := by
  have same : t.mapFiles f = t.mapFiles fun _ content => content := mapFiles_congr h
  rw [same, mapFiles]
  have entry : ∀ p : Location × Entry, (p.1, p.2.mapContent fun content => content) = p := by
    rintro ⟨l, e⟩
    cases e <;> rfl
  simp only [entry, List.map_id']

theorem WellFormed.mapFiles (ht : t.WellFormed) : (t.mapFiles f).WellFormed where
  nodup := by
    rw [locations_mapFiles]
    exact ht.nodup
  location := by
    intro _ h
    obtain ⟨p, hp, rfl⟩ := List.mem_map.1 h
    exact ht.location p hp
  parent := by
    intro _ h
    obtain ⟨p, hp, rfl⟩ := List.mem_map.1 h
    rw [get?_mapFiles, ht.parent p hp]
    rfl

/-! ## Ways -/

theorem resolveFrom_mapFiles (f : Location → Bytes → Bytes) (follow : Bool) (links : Nat)
    (here : Location) (way : List Text) :
    resolveFrom (t.mapFiles f) follow links here way = resolveFrom t follow links here way := by
  have directory : ∀ {l : Location}, (t.mapFiles f).get? l = some .directory
      ↔ t.get? l = some .directory := by
    intro l
    rw [get?_mapFiles]
    rcases t.get? l with _ | (_ | _ | _) <;> simp [Entry.mapContent]
  fun_induction resolveFrom t follow links here way with
  | case1 links here => rw [resolveFrom]
  | case2 links here rest hdir ih => rwa [resolveFrom, directory.2 hdir]
  | case3 links here rest hdir hne ih => rwa [resolveFrom, directory.2 hdir]
  | case4 links here name rest hdir hne hne' hnone =>
    simp only [resolveFrom, directory.2 hdir, hne, hne', if_false, get?_mapFiles, hnone,
      Option.map_none]
  | case5 links here name rest hdir hne hne' target hlink h =>
    simp only [resolveFrom, directory.2 hdir, hne, hne', if_false, get?_mapFiles, hlink,
      Option.map_some, Entry.mapContent, h, if_true]
  | case6 here name rest hdir hne hne' target hlink h =>
    simp only [resolveFrom, directory.2 hdir, hne, hne', if_false, get?_mapFiles, hlink,
      Option.map_some, Entry.mapContent, h, Bool.false_eq_true]
  | case7 here name rest hdir hne hne' target hlink h links ih =>
    simpa only [resolveFrom, directory.2 hdir, hne, hne', if_false, get?_mapFiles, hlink,
      Option.map_some, Entry.mapContent, h, Bool.false_eq_true, dite_eq_ite] using ih
  | case8 links here name rest hdir hne hne' e hnot hentry ih =>
    cases e with
    | link target => exact absurd rfl (hnot target)
    | file | directory =>
      simpa only [resolveFrom, directory.2 hdir, hne, hne', if_false, get?_mapFiles, hentry,
        Option.map_some, Entry.mapContent] using ih
  | case9 links here name rest hdir =>
    rw [resolveFrom]
    split
    · rename_i h
      exact absurd (directory.1 h) hdir
    · rfl

theorem resolve_mapFiles (f : Location → Bytes → Bytes) (cwd : Location) (p : Path)
    (follow : Bool) : (t.mapFiles f).resolve cwd p follow = t.resolve cwd p follow := by
  simp only [resolve, resolveFrom_mapFiles]

/-! ## Writing -/

theorem replaceEntry_eq_map {l : Location} {content new : Bytes} {executable : Bool}
    {ps : List (Location × Entry)} (hnodup : (ps.map Prod.fst).Nodup)
    (h : (l, .file content executable) ∈ ps) :
    replaceEntry l (.file new executable) ps
      = ps.map fun p => (p.1, p.2.mapContent fun old => if p.1 = l then new else old) := by
  have kept : ∀ p : Location × Entry, p.1 ≠ l →
      (p.1, p.2.mapContent fun old => if p.1 = l then new else old) = p := by
    rintro ⟨m, e⟩ hm
    cases e <;> simp_all [Entry.mapContent]
  induction ps with
  | nil => simp at h
  | cons p ps ih =>
    obtain ⟨hnew, hnodup⟩ := List.nodup_cons.1 hnodup
    rw [replaceEntry, List.map_cons]
    rcases List.mem_cons.1 h with rfl | h
    · have others : ∀ p ∈ ps, p.1 ≠ l := fun p hp heq =>
        hnew (List.mem_map.2 ⟨p, hp, heq⟩)
      rw [if_pos rfl, List.map_congr_left fun p hp => kept p (others p hp), List.map_id']
      simp [Entry.mapContent]
    · have hp : p.1 ≠ l := fun heq => hnew (heq ▸ List.mem_map.2 ⟨_, h, rfl⟩)
      rw [if_neg hp, ih hnodup h, kept p hp]

def onlyAt (l : Location) (change : Bytes → Bytes) (m : Location) (content : Bytes) : Bytes :=
  if m = l then change content else content

section Update

variable {l : Location} {content : Bytes} {executable : Bool} {change : Bytes → Bytes}

theorem mapFiles_onlyAt_congr (ht : t.WellFormed) (h : t.get? l = some (.file content executable))
    (change' : Bytes → Bytes) (heq : change content = change' content) :
    t.mapFiles (onlyAt l change) = t.mapFiles (onlyAt l change') := by
  refine mapFiles_congr fun m old executable' hm => ?_
  unfold onlyAt
  split
  · rename_i hml
    have here := ht.get?_of_mem hm
    rw [hml, h] at here
    cases here
    exact heq
  · rfl

theorem mapFiles_onlyAt_eq_self (ht : t.WellFormed) (h : t.get? l = some (.file content executable))
    (hc : change content = content) : t.mapFiles (onlyAt l change) = t := by
  rw [mapFiles_onlyAt_congr ht h (fun old => old) hc]
  exact mapFiles_eq_self fun _ _ _ _ => ite_self _

/-- A file that is written over is changed in its place. -/
theorem put_eq_mapFiles (ht : t.WellFormed) (h : t.get? l = some (.file content executable)) :
    t.put l (.file (change content) executable) = t.mapFiles (onlyAt l change) := by
  rw [mapFiles_onlyAt_congr ht h (fun _ => change content) rfl, put,
    replaceEntry_eq_map ht.nodup (mem_of_get?_file h)]
  rfl

end Update

end FileTree

namespace Workspace

/-- The workspace with the content of each file changed. -/
def mapFiles (f : Location → Bytes → Bytes) (w : Workspace) : Workspace :=
  { w with tree := w.tree.mapFiles f }

variable (f : Location → Bytes → Bytes) (w : Workspace)

@[simp]
theorem tree_mapFiles : (w.mapFiles f).tree = w.tree.mapFiles f := rfl

@[simp]
theorem directory_mapFiles : (w.mapFiles f).directory = w.directory := rfl

theorem resolve_mapFiles (p : Path) (follow : Bool) :
    (w.mapFiles f).tree.resolve (w.mapFiles f).cwd p follow = w.tree.resolve w.cwd p follow :=
  FileTree.resolve_mapFiles f w.cwd p follow

@[simp]
theorem fault?_mapFiles (p : Path) : (w.mapFiles f).fault? p = w.fault? p := by
  rw [fault?, resolve_mapFiles]
  rfl

theorem mapFiles_mapFiles (g : Location → Bytes → Bytes) :
    (w.mapFiles f).mapFiles g = w.mapFiles fun l content => g l (f l content) := by
  simp only [mapFiles, FileTree.mapFiles_mapFiles]

variable {f w}

theorem mapFiles_congr {g : Location → Bytes → Bytes}
    (h : ∀ l content executable, (l, .file content executable) ∈ w.tree.entries →
      f l content = g l content) : w.mapFiles f = w.mapFiles g := by
  rw [mapFiles, FileTree.mapFiles_congr h, ← mapFiles]

theorem mapFiles_eq_self
    (h : ∀ l content executable, (l, .file content executable) ∈ w.tree.entries →
      f l content = content) : w.mapFiles f = w := by
  rw [mapFiles, FileTree.mapFiles_eq_self h]

theorem mapFiles_onlyAt_congr (ht : w.tree.WellFormed) {l : Location} {content : Bytes}
    {executable : Bool} (h : w.tree.get? l = some (.file content executable))
    {change change' : Bytes → Bytes} (heq : change content = change' content) :
    w.mapFiles (FileTree.onlyAt l change) = w.mapFiles (FileTree.onlyAt l change') := by
  rw [mapFiles, FileTree.mapFiles_onlyAt_congr ht h change' heq, ← mapFiles]

theorem mapFiles_onlyAt_eq_self (ht : w.tree.WellFormed) {l : Location} {content : Bytes}
    {executable : Bool} (h : w.tree.get? l = some (.file content executable))
    {change : Bytes → Bytes} (hc : change content = content) :
    w.mapFiles (FileTree.onlyAt l change) = w := by
  rw [mapFiles, FileTree.mapFiles_onlyAt_eq_self ht h hc]

/-! ## Reading -/

section Reading

variable {p : Path} {l : Location} {content : Bytes} {executable : Bool}
  (hp : w.tree.resolve w.cwd p true = .ok l) (h : w.tree.get? l = some (.file content executable))

include hp h

theorem read_of_resolve : w.read p = .ok content := by
  simp only [read, FileTree.read, FileTree.entry, hp, h]

theorem readText_of_decode {text : Text} (hdecode : Utf8.decode content = .ok text) :
    w.readText p = .ok text := by
  have bytes : w.tree.read w.cwd p = .ok content := read_of_resolve hp h
  simp only [readText, FileTree.readText, bytes, hdecode]

theorem readText_of_decode_error {e : Utf8.Error} (hdecode : Utf8.decode content = .error e) :
    w.readText p = .error .invalidText := by
  have bytes : w.tree.read w.cwd p = .ok content := read_of_resolve hp h
  simp only [readText, FileTree.readText, bytes, hdecode]

end Reading

theorem isDirectory_mapFiles (f : Location → Bytes → Bytes) (w : Workspace) (p : Path) :
    (w.mapFiles f).isDirectory p = w.isDirectory p := by
  unfold isDirectory FileTree.isDirectory FileTree.entry
  rw [resolve_mapFiles]
  cases w.tree.resolve w.cwd p true with
  | error e => rfl
  | ok l =>
    dsimp only
    rw [tree_mapFiles, FileTree.get?_mapFiles]
    rcases w.tree.get? l with _ | (_ | _ | _) <;> rfl

theorem readText_mapFiles {p : Path} {l : Location}
    (hp : w.tree.resolve w.cwd p true = .ok l)
    (h : ∀ content, f l content = content) : (w.mapFiles f).readText p = w.readText p := by
  have kept : (w.mapFiles f).tree.get? l = w.tree.get? l := by
    rw [tree_mapFiles, FileTree.get?_mapFiles]
    rcases w.tree.get? l with _ | (_ | _ | _) <;> simp [Entry.mapContent, h]
  simp only [readText, FileTree.readText, FileTree.read, FileTree.entry, resolve_mapFiles, hp, kept]

/-! ## Writing over a file -/

/-- What the file at a location holds after new content was to be written over the old. -/
def stored (w : Workspace) (l : Location) (old new : Bytes) : Bytes :=
  match w.faultAt? l with
  | none => new
  | some (.refused _) => old
  | some (.full _ room) => new.take room

/-- Why new content cannot be written to the file that a path names. -/
def writeError? (w : Workspace) (p : Path) (new : Bytes) : Option IoError :=
  match w.fault? p with
  | none => none
  | some (.refused error) => some error
  | some (.full error room) => if new.length ≤ room then none else some error

theorem writeError?_of_fault? {w : Workspace} {p : Path} (h : w.fault? p = none) (new : Bytes) :
    w.writeError? p new = none := by
  rw [writeError?, h]

section Writing

variable {w : Workspace} (ht : w.tree.WellFormed) {p : Path} {l : Location} {content : Bytes}
  {executable : Bool} (hp : w.tree.resolve w.cwd p true = .ok l)
  (h : w.tree.get? l = some (.file content executable))

include hp

theorem fault?_of_resolve : w.fault? p = w.faultAt? l := by
  rw [fault?, hp]
  rfl

theorem stored_of_writeError? {old new : Bytes} (hnone : w.writeError? p new = none) :
    w.stored l old new = new := by
  unfold writeError? at hnone
  rw [fault?_of_resolve hp] at hnone
  unfold stored
  split at hnone
  · simp_all
  · cases hnone
  · split at hnone
    · exact List.take_of_length_le ‹_›
    · cases hnone

include ht h

theorem store_of_resolve (new : Bytes) :
    w.store p new = .ok (w.mapFiles (FileTree.onlyAt l fun _ => new)) := by
  rw [mapFiles, ← FileTree.put_eq_mapFiles ht h]
  simp only [store, FileTree.write, hp, h, Except.map]

/-- A write leaves in the file what can be stored there, and fails where not all can be. -/
theorem write_of_resolve (new : Bytes) :
    let after := w.mapFiles (FileTree.onlyAt l fun old => w.stored l old new)
    w.write p new = match w.writeError? p new with
      | none => .ok after
      | some error => .error (error, after) := by
  intro after
  have stored : after = w.mapFiles (FileTree.onlyAt l fun _ => w.stored l content new) :=
    mapFiles_onlyAt_congr ht h rfl
  rw [write, writeError?, fault?_of_resolve hp, stored]
  unfold Workspace.stored
  cases w.faultAt? l with
  | none =>
    dsimp only
    rw [store_of_resolve ht hp h]
    rfl
  | some fault =>
    cases fault with
    | refused error =>
      dsimp only
      rw [mapFiles_onlyAt_eq_self ht h rfl]
    | full error room =>
      dsimp only
      rw [store_of_resolve ht hp h]
      dsimp only
      by_cases hroom : new.length ≤ room
      · rw [if_pos hroom, if_pos hroom]
      · rw [if_neg hroom, if_neg hroom]

end Writing

end Workspace

end LogMigration
