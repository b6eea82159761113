import LogMigration.Proofs.BuiltinScan
import LogMigration.Proofs.NamePattern
import LogMigration.Scan.System

/-!
# Walking and searching

The builtin backend walks the tree and takes the files with the extension; the external backend
reads the lines that the program `find` prints for the pattern `*.` with the extension behind it.
Both list the files below the root, each once.  They list the same files exactly if the pattern and
the last dot say the same of each name.

* `Text.readLines_flatMap`, `External.pathsIn_flatMap` — lines are read as they were printed.
* `External.enumerate_eq_ok_iff` — when a listing succeeds, however programs are launched.
* `External.ListsMatches` — what is relied on in `find`; `Find.listsMatches` says that the program
  of the system does it.
* `enumerations_agree_iff` — when the two backends list the same files.
-/

set_option autoImplicit false

namespace LogMigration

open FileTree

/-! ## Printed lines -/

namespace Text

theorem lines_flatMap {ls : List Text} (h : ∀ l ∈ ls, '\n' ∉ l) :
    lines (ls.flatMap (· ++ ['\n'])) = ls ++ [[]] := by
  have closed := splitAt_flatMap_append h []
  rwa [List.append_nil] at closed

theorem dropSuffix_of_getLast?_ne {c : Char} {s : Text} (h : s.getLast? ≠ some c) :
    dropSuffix [c] s = s := by
  rw [← List.head?_reverse] at h
  unfold dropSuffix
  cases hrev : s.reverse with
  | nil => rfl
  | cons d back =>
    have other : c ≠ d := by
      rintro rfl
      exact h (by rw [hrev]; rfl)
    simp [dropPrefix?, other]

/-- Lines are read as they were printed, if none holds a newline or ends in a carriage return. -/
theorem readLines_flatMap {ls : List Text} (h : ∀ l ∈ ls, '\n' ∉ l ∧ l.getLast? ≠ some '\r') :
    readLines (ls.flatMap (· ++ ['\n'])) = ls := by
  have kept : ∀ l ∈ ls, dropSuffix ['\r'] l = id l :=
    fun l hl => dropSuffix_of_getLast?_ne (h l hl).2
  rw [readLines, lines_flatMap fun l hl => (h l hl).1, List.dropLast_concat,
    List.map_congr_left kept, List.map_id, List.getLast?_concat]
  exact List.append_nil ls

end Text

namespace External

/-- A listing succeeds exactly if the program can be launched, ends well and prints UTF-8, and then
it gives the printed lines. -/
theorem enumerate_eq_ok_iff {launch : Launcher} {tools : Tools} {w : Workspace} {root : Path}
    {extension : Text} {paths : List Path} :
    (enumerate launch tools w root extension).1 = .ok paths ↔ ∃ output after s,
      launch w tools.find [root.text, "-name".toList, "*.".toList ++ extension, "-type".toList, ['f']]
          = .ok (output, after)
        ∧ output.code = some 0 ∧ Utf8.decode output.stdout = .ok s ∧ pathsIn s = paths := by
  unfold enumerate
  cases launch w tools.find _ with
  | error e => simp
  | ok answer =>
    obtain ⟨output, after⟩ := answer
    unfold readListing
    by_cases hcode : output.code = some 0
    · cases hdecode : Utf8.decode output.stdout with
      | error e => simp [hcode, hdecode]
      | ok s => simp [hcode, hdecode]
    · simp [hcode]

theorem pathsIn_flatMap {paths : List Path}
    (hlines : ∀ p ∈ paths, '\n' ∉ p.text ∧ p.text.getLast? ≠ some '\r')
    (hnames : ∀ p ∈ paths, p.text ≠ []) :
    pathsIn ((paths.map Path.text).flatMap (· ++ ['\n'])) = paths := by
  have read : Text.readLines ((paths.map Path.text).flatMap (· ++ ['\n'])) = paths.map Path.text :=
    Text.readLines_flatMap (by simpa using hlines)
  have all : (paths.map Path.text).filter (· ≠ []) = paths.map Path.text :=
    List.filter_eq_self.2 (by simpa using hnames)
  rw [pathsIn, read, all, List.map_map]
  exact List.map_id paths

/-- What the external backend relies on: the program `find`, asked for the files below the root
whose names fit the pattern, succeeds and prints their paths, one to a line and each once.  All
names in a tree are texts, so what it prints is UTF-8. -/
structure ListsMatches (launch : Launcher) (tools : Tools) (w : Workspace) (root : Path)
    (extension : Text) (printed : List Path) : Prop where
  launched : ∃ output after, launch w tools.find
      [root.text, "-name".toList, "*.".toList ++ extension, "-type".toList, ['f']]
      = .ok (output, after) ∧ output.code = some 0
    ∧ output.stdout = Utf8.encode ((printed.map Path.text).flatMap (· ++ ['\n']))
  nodup : printed.Nodup
  mem_iff : ∀ p, p ∈ printed ↔ ∃ names, (names, p) ∈ w.tree.filesBelow w.cwd root
    ∧ names.getLast?.any (Wildcard.fits ("*.".toList ++ extension)) = true

end External

/-! ## The program of the system -/

theorem Path.text_joined_ne_nil {root : Path} (hroot : root.text ≠ []) (names : List Text) :
    (names.foldl Path.join root).text ≠ [] := by
  induction names generalizing root with
  | nil => exact hroot
  | cons name names ih =>
    refine ih ?_
    unfold Path.join
    split <;> simp [hroot]

namespace Find

theorem stdout_listing (paths : List Path) : (listing paths).stdout
    = Utf8.encode ((paths.map Path.text).flatMap (· ++ ['\n'])) := by
  rw [Utf8.encode, List.flatMap_assoc, List.flatMap_map]
  rfl

variable {w : Workspace} {base : Location} {root : Path} {extension : Text}

theorem search_eq_listing (hreal : w.tree.resolve w.cwd root false = .ok base)
    (hdir : w.tree.get? base = some .directory) (pattern : Text) :
    search w root pattern = listing ((w.tree.filesBelow w.cwd root).filterMap fun (names, path) =>
      if names.getLast?.any (Wildcard.fits pattern) then some path else none) := by
  simp only [search, hreal, hdir]

theorem launch_eq_search (hprograms : w.programs = .system) (hpath : Lead.ofWord root.text = .path)
    (hroot : '\x00' ∉ root.text) (hnul : '\x00' ∉ extension) :
    w.launch "find".toList
        [root.text, "-name".toList, "*.".toList ++ extension, "-type".toList, ['f']]
      = .ok (search w root ("*.".toList ++ extension), w) := by
  have free : ∀ a ∈ [root.text, "-name".toList, "*.".toList ++ extension, "-type".toList, ['f']],
      '\x00' ∉ a := by
    have words : '\x00' ∉ "-name".toList ∧ '\x00' ∉ "*.".toList ∧ '\x00' ∉ "-type".toList
        ∧ '\x00' ∉ ['f'] := by decide
    simp only [List.forall_mem_cons, List.mem_append, hroot, hnul, words, or_self, not_false_eq_true,
      List.not_mem_nil, false_imp_iff, implies_true, and_self]
  have run : SystemProgram.run .find w
      [root.text, "-name".toList, "*.".toList ++ extension, "-type".toList, ['f']] []
      = Find.run w root ("*.".toList ++ extension) := rfl
  rw [show "find".toList = SystemProgram.find.name.toList from rfl,
    Workspace.launch_of_system hprograms .find free, run, Find.run, hpath]

/-- The program of the system does what the external backend relies on, below a directory that is no
link and does not look like anything else than a path. -/
theorem listsMatches (ht : w.tree.WellFormed) (hroot : w.tree.resolve w.cwd root true = .ok base)
    (hreal : w.tree.resolve w.cwd root false = .ok base)
    (hdir : w.tree.get? base = some .directory) (hprograms : w.programs = .system)
    (hpath : Lead.ofWord root.text = .path) (hnul : '\x00' ∉ extension) :
    External.ListsMatches Workspace.launch {} w root extension
      ((w.tree.filesBelow w.cwd root).filterMap fun (names, path) =>
        if names.getLast?.any (Wildcard.fits ("*.".toList ++ extension)) then some path
        else none) where
  launched := by
    refine ⟨_, w, launch_eq_search hprograms hpath (resolve_eq_ok_iff.1 hroot).1 hnul, ?_, ?_⟩
    · rw [search_eq_listing hreal hdir]
      rfl
    · rw [search_eq_listing hreal hdir, stdout_listing]
  nodup := nodup_filterMap_filesBelow ht hroot fun names =>
    names.getLast?.any (Wildcard.fits ("*.".toList ++ extension)) = true
  mem_iff _ := mem_filterMap_filesBelow fun names =>
    names.getLast?.any (Wildcard.fits ("*.".toList ++ extension)) = true

end Find

/-! ## Both backends -/

/-- Whether a file below the root has a name. -/
def Workspace.HasFileNamed (w : Workspace) (root : Path) (name : Text) : Prop :=
  ∃ names path, (names, path) ∈ w.tree.filesBelow w.cwd root ∧ names.getLast? = some name

theorem Workspace.hasFileNamed_iff (w : Workspace) {root : Path} {name : Text} :
    w.HasFileNamed root name
      ↔ ∃ file ∈ w.tree.filesBelow w.cwd root, file.1.getLast? = some name :=
  ⟨fun ⟨names, path, hfile, hlast⟩ => ⟨(names, path), hfile, hlast⟩,
    fun ⟨(names, path), hfile, hlast⟩ => ⟨names, path, hfile, hlast⟩⟩

section Both

variable {w : Workspace} (ht : w.tree.WellFormed) {root : Path} {base : Location}
  (hroot : w.tree.resolve w.cwd root true = .ok base) {extension : Text}
  {walked printed : List Path}
  (hwalk : Builtin.enumerate w root extension = .ok walked) {launch : Launcher}
  {tools : External.Tools} (hfind : External.ListsMatches launch tools w root extension printed)

include hfind in
theorem External.enumerate_of_listsMatches :
    (External.enumerate launch tools w root extension).1
      = .ok (pathsIn ((printed.map Path.text).flatMap (· ++ ['\n']))) := by
  obtain ⟨output, after, launched, hcode, hprinted⟩ := hfind.launched
  refine External.enumerate_eq_ok_iff.2 ⟨output, after, _, launched, hcode, ?_, rfl⟩
  rw [hprinted, Utf8.decode_encode]

include hfind hroot in
theorem External.ListsMatches.pathsIn_printed
    (hlines : ∀ p ∈ printed, '\n' ∉ p.text ∧ p.text.getLast? ≠ some '\r') :
    pathsIn ((printed.map Path.text).flatMap (· ++ ['\n'])) = printed := by
  refine pathsIn_flatMap hlines fun p hp => ?_
  obtain ⟨names, hfile, -⟩ := (hfind.mem_iff p).1 hp
  obtain ⟨-, rfl, -⟩ := (mem_filesBelow_iff hroot).1 hfile
  exact Path.text_joined_ne_nil (resolve_eq_ok_iff.1 hroot).2.1 names

include ht hroot hwalk hfind

/-- The same files are listed exactly if the pattern and the last dot agree on each name. -/
theorem same_files_iff : (∀ p, p ∈ walked ↔ p ∈ printed)
    ↔ ∀ name, w.HasFileNamed root name →
      (Wildcard.fits ("*.".toList ++ extension) name = true
        ↔ Path.nameExtension? name = some extension) := by
  have walks : ∀ {names p name}, (names, p) ∈ w.tree.filesBelow w.cwd root →
      names.getLast? = some name → (p ∈ walked ↔ Path.nameExtension? name = some extension) := by
    intro names p name hfile hlast
    rw [Builtin.mem_enumerate_iff hwalk]
    constructor
    · rintro ⟨names', hfile', hext⟩
      rwa [names_eq_of_mem_filesBelow ht hroot hfile' hfile, hlast, Option.bind_some] at hext
    · intro hext
      exact ⟨names, hfile, by rw [hlast, Option.bind_some, hext]⟩
  have prints : ∀ {names p name}, (names, p) ∈ w.tree.filesBelow w.cwd root →
      names.getLast? = some name →
      (p ∈ printed ↔ Wildcard.fits ("*.".toList ++ extension) name = true) := by
    intro names p name hfile hlast
    rw [hfind.mem_iff]
    constructor
    · rintro ⟨names', hfile', hfit⟩
      rwa [names_eq_of_mem_filesBelow ht hroot hfile' hfile, hlast, Option.any_some] at hfit
    · intro hfit
      exact ⟨names, hfile, by rw [hlast, Option.any_some, hfit]⟩
  constructor
  · rintro same name ⟨names, p, hfile, hlast⟩
    rw [← prints hfile hlast, ← walks hfile hlast, same]
  · intro agree p
    have step : ∀ names, (names, p) ∈ w.tree.filesBelow w.cwd root →
        (p ∈ walked ↔ p ∈ printed) := by
      intro names hfile
      obtain ⟨hne, -⟩ := (mem_filesBelow_iff hroot).1 hfile
      have hlast := List.getLast?_eq_some_getLast hne
      rw [prints hfile hlast, walks hfile hlast, agree _ ⟨names, p, hfile, hlast⟩]
    constructor
    · intro hp
      obtain ⟨names, hfile, -⟩ := (Builtin.mem_enumerate_iff hwalk).1 hp
      exact (step names hfile).1 hp
    · intro hp
      obtain ⟨names, hfile, -⟩ := (hfind.mem_iff p).1 hp
      exact (step names hfile).2 hp

end Both

/-- Below a directory both backends succeed, however programs are launched, if `find` does what is
relied on, and the walk lists each of its files once.  So does the search if no printed path breaks
a line, and then both list the same files exactly if the pattern fits the names that have the
extension; for an extension without dots and special characters, exactly if no file is named by a
dot and the extension alone. -/
theorem enumerations_agree_iff {w : Workspace} (ht : w.tree.WellFormed) {root : Path}
    (hdir : w.isDirectory root = true) {extension : Text} {launch : Launcher}
    {tools : External.Tools} {printed : List Path}
    (hfind : External.ListsMatches launch tools w root extension printed) :
    ∃ walked listed, Builtin.enumerate w root extension = .ok walked
      ∧ (External.enumerate launch tools w root extension).1 = .ok listed
      ∧ walked.Nodup
      ∧ ((∀ p ∈ printed, '\n' ∉ p.text ∧ p.text.getLast? ≠ some '\r') →
        listed.Nodup
        ∧ ((∀ p, p ∈ walked ↔ p ∈ listed) ↔ ∀ name, w.HasFileNamed root name →
          (Wildcard.fits ("*.".toList ++ extension) name = true
            ↔ Path.nameExtension? name = some extension))
        ∧ ((∀ c ∈ extension, Wildcard.IsLiteral c ∧ c ≠ '.') →
          ((∀ p, p ∈ walked ↔ p ∈ listed) ↔ ¬ w.HasFileNamed root ('.' :: extension)))) := by
  obtain ⟨walked, hwalk⟩ : ∃ walked, Builtin.enumerate w root extension = .ok walked :=
    ⟨_, by rw [Builtin.enumerate, if_pos hdir]⟩
  obtain ⟨base, hroot⟩ := Builtin.resolve_of_enumerate hwalk
  have same := same_files_iff ht hroot hwalk hfind
  refine ⟨walked, _, hwalk, External.enumerate_of_listsMatches hfind,
    Builtin.nodup_of_enumerate ht hroot hwalk, fun hlines => ?_⟩
  rw [hfind.pathsIn_printed hroot hlines]
  refine ⟨hfind.nodup, same, fun hplain => ?_⟩
  simp only [same, Wildcard.fits_iff_nameExtension? hplain]
  constructor
  · intro h hnamed
    exact h _ hnamed rfl
  · rintro h name hnamed rfl
    exact h hnamed

/-- A file whose name is a dot and the extension: the walk leaves it out, and the search lists
it. -/
theorem enumerations_differ_on_dot_file :
    let w : Workspace := { tree := ⟨[(["src".toList], .directory),
      (["src".toList, ".js".toList], .file [] false)]⟩ }
    w.tree.IsPlain ∧ w.isDirectory ⟨"src".toList⟩ = true
      ∧ External.ListsMatches Workspace.launch {} w ⟨"src".toList⟩ "js".toList [⟨"src/.js".toList⟩]
      ∧ Builtin.enumerate w ⟨"src".toList⟩ "js".toList = .ok []
      ∧ (External.enumerate Workspace.launch {} w ⟨"src".toList⟩ "js".toList).1
        = .ok [⟨"src/.js".toList⟩] := by
  intro w
  have plain : w.tree.IsPlain := by
    refine ⟨⟨by decide +kernel, by decide +kernel, by decide +kernel⟩, ?_⟩
    simp [w]
  have here : w.tree.get? ["src".toList] = some .directory := by decide +kernel
  have way : ∀ follow, w.tree.resolve w.cwd ⟨"src".toList⟩ follow = .ok ["src".toList] := fun _ =>
    plain.toWellFormed.resolve_relative rfl (by decide) (by decide) (by decide +kernel) here (by simp)
  have search : External.ListsMatches Workspace.launch {} w ⟨"src".toList⟩ "js".toList _ :=
    Find.listsMatches plain.toWellFormed (way true) (way false) here rfl (by decide) (by decide)
  have files : w.tree.filesBelow w.cwd ⟨"src".toList⟩ = [([".js".toList], ⟨"src/.js".toList⟩)] :=
    (filesBelow_eq (way true)).trans (by decide +kernel)
  rw [files] at search
  refine ⟨plain, Builtin.isDirectory_of_resolve (way true) here, search, ?_, ?_⟩
  · rw [Builtin.enumerate_of_directory (way true) here, files]
    exact congrArg _ (by decide +kernel)
  · rw [External.enumerate_of_listsMatches search]
    exact congrArg _ (by decide +kernel)

/-- Two files in different directories and one without the extension: both backends list the two. -/
theorem enumerations_agree_nested :
    let w : Workspace := { tree := ⟨[(["src".toList], .directory),
      (["src".toList, "a.js".toList], .file [] false),
      (["src".toList, "lib".toList], .directory),
      (["src".toList, "lib".toList, "b.js".toList], .file [] false),
      (["src".toList, "note.txt".toList], .file [] false)]⟩ }
    ∃ walked listed, Builtin.enumerate w ⟨"src".toList⟩ "js".toList = .ok walked
      ∧ (External.enumerate Workspace.launch {} w ⟨"src".toList⟩ "js".toList).1 = .ok listed
      ∧ walked.Nodup ∧ listed.Nodup ∧ ∀ p, p ∈ walked ↔ p ∈ listed := by
  intro w
  have wellFormed : w.tree.WellFormed :=
    ⟨by decide +kernel, by decide +kernel, by decide +kernel⟩
  have here : w.tree.get? ["src".toList] = some .directory := by decide +kernel
  have way : ∀ follow, w.tree.resolve w.cwd ⟨"src".toList⟩ follow = .ok ["src".toList] := fun _ =>
    wellFormed.resolve_relative rfl (by decide) (by decide) (by decide +kernel) here (by simp)
  have search : External.ListsMatches Workspace.launch {} w ⟨"src".toList⟩ "js".toList _ :=
    Find.listsMatches wellFormed (way true) (way false) here rfl (by decide) (by decide)
  have files : w.tree.filesBelow w.cwd ⟨"src".toList⟩ = [(["a.js".toList], ⟨"src/a.js".toList⟩),
      (["lib".toList, "b.js".toList], ⟨"src/lib/b.js".toList⟩),
      (["note.txt".toList], ⟨"src/note.txt".toList⟩)] :=
    (filesBelow_eq (way true)).trans (by decide +kernel)
  rw [files] at search
  obtain ⟨walked, listed, hwalk, hlist, walkedOnce, lines⟩ :=
    enumerations_agree_iff wellFormed (Builtin.isDirectory_of_resolve (way true) here) search
  obtain ⟨listedOnce, -, same⟩ := lines (by decide +kernel)
  have plain : ("js".toList.all fun c => Wildcard.IsLiteral c ∧ c ≠ '.') = true := by decide
  have unnamed : ¬ w.HasFileNamed ⟨"src".toList⟩ ".js".toList := by
    rw [w.hasFileNamed_iff, files]
    decide +kernel
  exact ⟨walked, listed, hwalk, hlist, walkedOnce, listedOnce,
    (same (by simpa only [List.all_eq_true, decide_eq_true_eq] using plain)).2 unnamed⟩

end LogMigration
