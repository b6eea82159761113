import LogMigration.Proofs.FileUpdate
import LogMigration.Scan.Builtin
import LogMigration.Scan.Discovery

/-!
# Scans in any order

The builtin backend lists each file below the root with the extension once.  In which order the
files come depends on the system, so what is said of a scan here is said of every backend that lists
the same files in some order and counts like the builtin one.

* `FileTree.walkPath?` — the path that a walk gives to a location.
* `Builtin.mem_of_enumerate`, `Builtin.nodup_of_enumerate` — what the walk lists.
* `CountBackend.ReordersBuiltin` — the same files in some order, and the same counts.
* `discover_cases` — what a scan by such a backend can do; it changes no file.
-/

set_option autoImplicit false

namespace LogMigration

namespace FileTree

theorem namesBelow?_eq_some_iff {base l : Location} {names : List Text} :
    namesBelow? base l = some names ↔ l = base ++ names := by
  induction base generalizing l with
  | nil => simp [namesBelow?]
  | cons n base ih =>
    cases l with
    | nil => simp [namesBelow?]
    | cons m l =>
      by_cases h : n = m
      · simp [namesBelow?, h, ih]
      · simp [namesBelow?, h, Ne.symm h]

/-- The path that a walk from `root`, which is at `base`, gives to a location. -/
def walkPath? (root : Path) (base l : Location) : Option Path :=
  match namesBelow? base l with
  | some [] | none => none
  | some names => some (names.foldl Path.join root)

theorem walkPath?_eq_some_iff {root : Path} {base l : Location} {p : Path} :
    walkPath? root base l = some p
      ↔ ∃ names, names ≠ [] ∧ l = base ++ names ∧ p = names.foldl Path.join root := by
  unfold walkPath?
  constructor
  · intro h
    split at h
    · cases h
    · cases h
    · rename_i names hne hnames
      exact ⟨names, hne, namesBelow?_eq_some_iff.1 hnames, (Option.some.inj h).symm⟩
  · rintro ⟨names, hne, hl, rfl⟩
    rw [namesBelow?_eq_some_iff.2 hl]
    cases names with
    | nil => exact absurd rfl hne
    | cons n names => rfl

namespace WellFormed

variable {t : FileTree} (ht : t.WellFormed) {cwd base l l' : Location} {root p : Path}
  {content content' : Bytes} {executable executable' : Bool}

include ht

theorem resolve_walkPath (hroot : t.resolve cwd root true = .ok base)
    (hp : walkPath? root base l = some p) (h : t.get? l = some (.file content executable)) :
    t.resolve cwd p true = .ok l := by
  obtain ⟨names, hne, rfl, rfl⟩ := walkPath?_eq_some_iff.1 hp
  exact ht.resolve_joined hroot hne h fun _ => by simp

theorem walkPath_inj (hroot : t.resolve cwd root true = .ok base)
    (hp : walkPath? root base l = some p) (h : t.get? l = some (.file content executable))
    (hp' : walkPath? root base l' = some p) (h' : t.get? l' = some (.file content' executable')) :
    l = l' := by
  have way := ht.resolve_walkPath hroot hp h
  rw [ht.resolve_walkPath hroot hp' h'] at way
  exact (Except.ok.inj way).symm

/-- Below a root that is no directory there is nothing. -/
theorem get?_root (hp : walkPath? root base l = some p)
    (h : t.get? l = some (.file content executable)) : t.get? base = some .directory := by
  obtain ⟨names, hne, rfl, -⟩ := walkPath?_eq_some_iff.1 hp
  exact ht.get?_of_below hne h

end WellFormed

/-! ## The files below a directory -/

section Below

variable {t : FileTree} (ht : t.WellFormed) {cwd base : Location} {root p : Path}
  (hroot : t.resolve cwd root true = .ok base) {names names' : List Text}

theorem mem_filterMap_filesBelow (picked : List Text → Prop) [DecidablePred picked] :
    (p ∈ (t.filesBelow cwd root).filterMap fun (names, path) =>
      if picked names then some path else none)
      ↔ ∃ names, (names, p) ∈ t.filesBelow cwd root ∧ picked names := by
  simp [List.mem_filterMap]

/-- A file below the root, as the walk names it. -/
def fileBelow? (root : Path) (base : Location) : Location × Entry → Option (List Text × Path)
  | (l, .file _ _) =>
    ((namesBelow? base l).filter (· ≠ [])).map fun names => (names, names.foldl Path.join root)
  | _ => none

theorem fileBelow?_eq_some_iff {l : Location} {e : Entry} :
    fileBelow? root base (l, e) = some (names, p)
      ↔ (∃ content executable, e = .file content executable) ∧ l = base ++ names ∧ names ≠ []
        ∧ p = names.foldl Path.join root := by
  cases e with
  | file content executable =>
    simp only [fileBelow?, Option.map_eq_some_iff, Option.filter_eq_some_iff, namesBelow?_eq_some_iff,
      decide_eq_true_eq, Prod.mk.injEq, Entry.file.injEq]
    constructor
    · rintro ⟨_, ⟨hl, hne⟩, rfl, rfl⟩
      exact ⟨⟨_, _, rfl, rfl⟩, hl, hne, rfl⟩
    · rintro ⟨-, hl, hne, rfl⟩
      exact ⟨names, ⟨hl, hne⟩, rfl, rfl⟩
  | directory => simp [fileBelow?]
  | link target => simp [fileBelow?]

include hroot

theorem filesBelow_eq : t.filesBelow cwd root = t.entries.filterMap (fileBelow? root base) := by
  rw [filesBelow, hroot]
  dsimp only
  rw [below, List.filterMap_filterMap]
  refine List.filterMap_congr fun q _ => ?_
  obtain ⟨l, e⟩ := q
  rcases hnames : namesBelow? base l with _ | (_ | ⟨n, names⟩) <;> cases e <;>
    simp [fileBelow?, hnames, Option.filter]

theorem mem_filesBelow_iff : (names, p) ∈ t.filesBelow cwd root
    ↔ names ≠ [] ∧ p = names.foldl Path.join root
      ∧ ∃ content executable, (base ++ names, .file content executable) ∈ t.entries := by
  rw [filesBelow_eq hroot, List.mem_filterMap]
  constructor
  · rintro ⟨⟨l, e⟩, hmem, h⟩
    obtain ⟨⟨content, executable, rfl⟩, rfl, hne, hp⟩ := fileBelow?_eq_some_iff.1 h
    exact ⟨hne, hp, content, executable, hmem⟩
  · rintro ⟨hne, hp, content, executable, hmem⟩
    exact ⟨_, hmem, fileBelow?_eq_some_iff.2 ⟨⟨content, executable, rfl⟩, rfl, hne, hp⟩⟩

include ht

theorem names_eq_of_mem_filesBelow (h : (names, p) ∈ t.filesBelow cwd root)
    (h' : (names', p) ∈ t.filesBelow cwd root) : names = names' := by
  obtain ⟨hne, hp, _, _, hmem⟩ := (mem_filesBelow_iff hroot).1 h
  obtain ⟨hne', hp', _, _, hmem'⟩ := (mem_filesBelow_iff hroot).1 h'
  have same := ht.walkPath_inj hroot (walkPath?_eq_some_iff.2 ⟨names, hne, rfl, hp⟩)
    (ht.get?_of_mem hmem) (walkPath?_eq_some_iff.2 ⟨names', hne', rfl, hp'⟩) (ht.get?_of_mem hmem')
  exact List.append_cancel_left same

theorem nodup_filesBelow : ((t.filesBelow cwd root).map Prod.snd).Nodup := by
  have distinct : (t.filesBelow cwd root).Nodup := by
    rw [filesBelow_eq hroot, List.Nodup, List.pairwise_filterMap]
    refine (List.pairwise_map.1 ht.nodup).imp ?_
    rintro ⟨l, e⟩ ⟨l', e'⟩ hne ⟨names, p⟩ h _ h' rfl
    obtain ⟨-, rfl, -⟩ := fileBelow?_eq_some_iff.1 h
    obtain ⟨-, rfl, -⟩ := fileBelow?_eq_some_iff.1 h'
    exact hne rfl
  refine distinct.map_on ?_
  rintro ⟨names, p⟩ h ⟨names', p'⟩ h' rfl
  rw [names_eq_of_mem_filesBelow ht hroot h h']

theorem nodup_filterMap_filesBelow (picked : List Text → Prop) [DecidablePred picked] :
    ((t.filesBelow cwd root).filterMap fun (names, path) =>
      if picked names then some path else none).Nodup := by
  have distinct := nodup_filesBelow ht hroot
  rw [List.Nodup, List.pairwise_map] at distinct
  rw [List.Nodup, List.pairwise_filterMap]
  refine distinct.imp ?_
  rintro ⟨names, p⟩ ⟨names', p'⟩ hne q h q' h' rfl
  obtain ⟨-, first⟩ := Option.ite_none_right_eq_some.1 h
  obtain ⟨-, second⟩ := Option.ite_none_right_eq_some.1 h'
  exact hne ((Option.some.inj first).trans (Option.some.inj second).symm)

end Below

end FileTree

open FileTree

/-! ## The files that the walk lists -/

namespace Builtin

variable {w : Workspace} {root p : Path} {base l : Location} {extension : Text} {paths : List Path}

theorem isDirectory_of_enumerate (h : enumerate w root extension = .ok paths) :
    w.isDirectory root = true := by
  by_contra hroot
  rw [enumerate, if_neg hroot] at h
  cases h

theorem isDirectory_of_resolve (hroot : w.tree.resolve w.cwd root true = .ok base)
    (hdir : w.tree.get? base = some .directory) : w.isDirectory root = true := by
  simp only [Workspace.isDirectory, FileTree.isDirectory, FileTree.entry, hroot, hdir]

theorem enumerate_of_directory (hroot : w.tree.resolve w.cwd root true = .ok base)
    (hdir : w.tree.get? base = some .directory) : enumerate w root extension
      = .ok ((w.tree.filesBelow w.cwd root).filterMap fun (names, path) =>
        if names.getLast?.bind Path.nameExtension? = some extension then some path else none) := by
  rw [enumerate, if_pos (isDirectory_of_resolve hroot hdir)]

/-- The walk takes the files whose last name has the extension. -/
theorem mem_enumerate_iff (h : enumerate w root extension = .ok paths) :
    p ∈ paths ↔ ∃ names, (names, p) ∈ w.tree.filesBelow w.cwd root
      ∧ names.getLast?.bind Path.nameExtension? = some extension := by
  rw [enumerate, if_pos (isDirectory_of_enumerate h)] at h
  obtain rfl := Except.ok.inj h
  exact mem_filterMap_filesBelow fun names =>
    names.getLast?.bind Path.nameExtension? = some extension

/-- The walk lists the files below the root that have the extension. -/
theorem mem_of_enumerate (ht : w.tree.WellFormed) (hroot : w.tree.resolve w.cwd root true = .ok base)
    (h : enumerate w root extension = .ok paths) :
    p ∈ paths ↔ ∃ l content executable, w.tree.get? l = some (.file content executable)
      ∧ walkPath? root base l = some p ∧ p.extension? = some extension := by
  have extension? : ∀ {names content executable}, names ≠ [] →
      (base ++ names, .file content executable) ∈ w.tree.entries →
      (names.foldl Path.join root).extension? = names.getLast?.bind Path.nameExtension? := by
    intro names content executable hne hmem
    exact Path.extension?_joined hne fun n hn =>
      (ht.location _ hmem).2 n (List.mem_append_right base hn)
  rw [mem_enumerate_iff h]
  constructor
  · rintro ⟨names, hfile, hext⟩
    obtain ⟨hne, rfl, content, executable, hmem⟩ := (mem_filesBelow_iff hroot).1 hfile
    exact ⟨_, content, executable, ht.get?_of_mem hmem, walkPath?_eq_some_iff.2 ⟨names, hne, rfl, rfl⟩,
      (extension? hne hmem).trans hext⟩
  · rintro ⟨_, content, executable, hl, hp, hext⟩
    obtain ⟨names, hne, rfl, rfl⟩ := walkPath?_eq_some_iff.1 hp
    have hmem := mem_of_get?_file hl
    exact ⟨names, (mem_filesBelow_iff hroot).2 ⟨hne, rfl, content, executable, hmem⟩,
      (extension? hne hmem).symm.trans hext⟩

theorem nodup_of_enumerate (ht : w.tree.WellFormed)
    (hroot : w.tree.resolve w.cwd root true = .ok base)
    (h : enumerate w root extension = .ok paths) : paths.Nodup := by
  rw [enumerate, if_pos (isDirectory_of_enumerate h)] at h
  obtain rfl := Except.ok.inj h
  exact nodup_filterMap_filesBelow ht hroot fun names =>
    names.getLast?.bind Path.nameExtension? = some extension

/-- The walk fails only where there is no file below the root. -/
theorem enumerate_of_file (extension : Text) (ht : w.tree.WellFormed)
    (hroot : w.tree.resolve w.cwd root true = .ok base) {content : Bytes} {executable : Bool}
    (hp : walkPath? root base l = some p)
    (h : w.tree.get? l = some (.file content executable)) :
    ∃ paths, enumerate w root extension = .ok paths := by
  exact ⟨_, enumerate_of_directory hroot (ht.get?_root hp h)⟩

theorem resolve_of_enumerate (h : enumerate w root extension = .ok paths) :
    ∃ base, w.tree.resolve w.cwd root true = .ok base := by
  have directory := isDirectory_of_enumerate h
  unfold Workspace.isDirectory FileTree.isDirectory FileTree.entry at directory
  cases hroot : w.tree.resolve w.cwd root true with
  | error e => simp [hroot] at directory
  | ok base => exact ⟨base, rfl⟩

theorem count_of_resolve {content : Bytes} {executable : Bool}
    (hp : w.tree.resolve w.cwd p true = .ok l)
    (h : w.tree.get? l = some (.file content executable)) :
    count w p = .ok (Console.count (Utf8.decodeLossy content)) := by
  rw [count, Workspace.read_of_resolve hp h]

end Builtin

/-! ## Changed files -/

theorem FileTree.filesBelow_mapFiles (f : Location → Bytes → Bytes) (t : FileTree) (cwd : Location)
    (root : Path) : (t.mapFiles f).filesBelow cwd root = t.filesBelow cwd root := by
  unfold filesBelow
  rw [resolve_mapFiles]
  cases t.resolve cwd root true with
  | error e => rfl
  | ok l =>
    simp only [below, mapFiles, List.filterMap_map, List.filterMap_filterMap]
    refine List.filterMap_congr fun p _ => ?_
    obtain ⟨m, e⟩ := p
    rcases h : namesBelow? l m with _ | (_ | _) <;> cases e <;> simp [h, Entry.mapContent]

theorem Builtin.enumerate_mapFiles (f : Location → Bytes → Bytes) (w : Workspace) (root : Path)
    (extension : Text) : enumerate (w.mapFiles f) root extension = enumerate w root extension := by
  have walk : (w.mapFiles f).tree.filesBelow w.cwd root = w.tree.filesBelow w.cwd root :=
    filesBelow_mapFiles f w.tree w.cwd root
  have same : (w.mapFiles f).cwd = w.cwd := rfl
  rw [enumerate, Workspace.isDirectory_mapFiles, same, walk, ← enumerate]

/-! ## Other orders -/

/-- Whether a backend lists the files that the builtin one lists, in some order, and counts like it.
It changes no file; its own state may decide on the order. -/
structure CountBackend.ReordersBuiltin {σ : Type} (b : CountBackend σ) : Prop where
  enumerate_ok : ∀ root extension s paths, Builtin.enumerate s.1 root extension = .ok paths →
    ∃ paths', (b.enumerate root extension s).1 = .ok paths' ∧ paths'.Perm paths
  enumerate_error : ∀ root extension s f, Builtin.enumerate s.1 root extension = .error f →
    (b.enumerate root extension s).1 = .error f
  enumerate_workspace : ∀ root extension s, (b.enumerate root extension s).2.1 = s.1
  count : ∀ path s, (b.count path s).1 = Builtin.count s.1 path
  count_workspace : ∀ path s, (b.count path s).2.1 = s.1

theorem Builtin.reordersBuiltin {σ : Type} : (backend : CountBackend σ).ReordersBuiltin where
  enumerate_ok _ _ _ paths h := ⟨paths, h, .refl paths⟩
  enumerate_error _ _ _ _ h := h
  enumerate_workspace _ _ _ := rfl
  count _ _ := rfl
  count_workspace _ _ := rfl

def Builtin.reversed {σ : Type} : CountBackend σ :=
  { Builtin.backend with
    enumerate := fun root extension s =>
      ((Builtin.enumerate s.1 root extension).map List.reverse, s) }

theorem Builtin.reversed_reordersBuiltin {σ : Type} :
    (reversed : CountBackend σ).ReordersBuiltin where
  enumerate_ok _ _ _ paths h :=
    ⟨paths.reverse, by simp only [reversed, h, Except.map], List.reverse_perm paths⟩
  enumerate_error _ _ _ _ h := by simp only [reversed, h, Except.map]
  enumerate_workspace _ _ _ := rfl
  count _ _ := rfl
  count_workspace _ _ := rfl

/-- What becomes of one listed file. -/
def Config.visit (c : Config) (w : Workspace) (p : Path) : Visit :=
  if c.excludes p then .excluded p else .counted p (Builtin.count w p)

/-- Whether a listed file is a candidate. -/
def Config.isCandidate (c : Config) (w : Workspace) (p : Path) : Bool :=
  !c.excludes p && (match Builtin.count w p with
    | .ok n => 0 < n
    | .error _ => false)

theorem candidate?_visit (c : Config) (w : Workspace) (p : Path) :
    (c.visit w p).candidate?.map Candidate.path = Option.guard (c.isCandidate w) p := by
  unfold Config.visit Config.isCandidate Option.guard
  cases hexcluded : c.excludes p with
  | true => simp [Visit.candidate?, hexcluded]
  | false =>
    cases hcount : Builtin.count w p with
    | error e => simp [Visit.candidate?, hcount]
    | ok n => cases n <;> simp [Visit.candidate?, hcount, hexcluded]

/-- The candidates of a scan are the listed files that are not excluded and have statements. -/
theorem path_candidates (c : Config) (w : Workspace) (paths : List Path) :
    (Discovery.ofVisits (paths.map (c.visit w))).candidates.map Candidate.path
      = paths.filter (c.isCandidate w) := by
  simp only [Discovery.ofVisits, List.filterMap_map, List.map_filterMap]
  rw [← List.filterMap_eq_filter]
  exact List.filterMap_congr fun p _ => candidate?_visit c w p

theorem path_mem_of_candidate {c : Config} {w : Workspace} {paths : List Path}
    {candidate : Candidate}
    (h : candidate ∈ (Discovery.ofVisits (paths.map (c.visit w))).candidates) :
    candidate.path ∈ paths := by
  have selected : candidate.path ∈ paths.filter (c.isCandidate w) := by
    rw [← path_candidates]
    exact List.mem_map_of_mem h
  exact (List.mem_filter.1 selected).1

section Scan

variable {σ : Type} {b : CountBackend σ} (hb : b.ReordersBuiltin) (c : Config)

include hb

theorem visitAll_eq (paths : List Path) (s : Workspace × σ) :
    (visitAll b c paths s).1 = paths.map (c.visit s.1) ∧ (visitAll b c paths s).2.1 = s.1 := by
  induction paths generalizing s with
  | nil => exact ⟨rfl, rfl⟩
  | cons p paths ih =>
    rw [visitAll, List.map_cons, Config.visit]
    split
    · obtain ⟨visits, same⟩ := ih s
      exact ⟨congrArg _ visits, same⟩
    · obtain ⟨visits, same⟩ := ih (b.count p s).2
      rw [hb.count_workspace] at visits same
      refine ⟨?_, same⟩
      dsimp only
      rw [visits, hb.count]

/-- What a scan can do: it fails where the builtin backend cannot list the files, and otherwise it
visits the files that this backend lists, in some order.  It changes no file. -/
theorem discover_cases (s : Workspace × σ) :
    (∃ f f' s', Builtin.enumerate s.1 c.root c.extension = .error f
      ∧ discover b c s = (.error f', s') ∧ s'.1 = s.1)
    ∨ ∃ (paths listing : List Path) (s' : Workspace × σ),
      Builtin.enumerate s.1 c.root c.extension = .ok paths ∧ listing.Perm paths
      ∧ discover b c s = (.ok (listing.map (c.visit s.1)), s') ∧ s'.1 = s.1 := by
  have same := hb.enumerate_workspace c.root c.extension s
  cases hlist : Builtin.enumerate s.1 c.root c.extension with
  | error f =>
    have failed := hb.enumerate_error c.root c.extension s f hlist
    cases henum : b.enumerate c.root c.extension s with
    | mk answer s' =>
      rw [henum] at failed same
      obtain rfl : answer = .error f := failed
      exact .inl ⟨f, f.during (.enumerate c.extension c.root), s', rfl, by rw [discover, henum], same⟩
  | ok paths =>
    obtain ⟨listing, listed, hperm⟩ := hb.enumerate_ok c.root c.extension s paths hlist
    cases henum : b.enumerate c.root c.extension s with
    | mk answer s' =>
      rw [henum] at listed same
      obtain rfl : answer = .ok listing := listed
      obtain ⟨visits, kept⟩ := visitAll_eq hb c listing s'
      refine .inr ⟨paths, listing, (visitAll b c listing s').2, rfl, hperm, ?_, kept.trans same⟩
      rw [discover, henum]
      dsimp only at same ⊢
      rw [visits, same]

theorem discover_of_enumerate {s : Workspace × σ} {paths : List Path}
    (hlist : Builtin.enumerate s.1 c.root c.extension = .ok paths) :
    ∃ (listing : List Path) (s' : Workspace × σ), listing.Perm paths
      ∧ discover b c s = (.ok (listing.map (c.visit s.1)), s') ∧ s'.1 = s.1 := by
  rcases discover_cases hb c s with
    ⟨_, _, _, failed, -, -⟩ | ⟨paths', listing, s', hlist', hperm, scanned, same⟩
  · cases hlist.symm.trans failed
  · obtain rfl : paths = paths' := Except.ok.inj (hlist.symm.trans hlist')
    exact ⟨listing, s', hperm, scanned, same⟩

end Scan

end LogMigration
