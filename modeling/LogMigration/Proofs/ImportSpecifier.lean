import LogMigration.Proofs.PathLocation

/-!
# Where a specifier leads

A file requires the logger by its specifier, which is followed from the directory of the file.  It
has one `../` for every name between the tree root and the file, so it leads to the module of the
tree root; from a file elsewhere it leads to the module of the filesystem root.

* `LoggerTarget.located_of_below`, `LoggerTarget.located_of_not_below` — what is counted.
* `LoggerTarget.leadsTo_specifier` — what the specifier takes away.
* `LoggerTarget.specifier_leads_to_module` — where it leads.
* `LoggerTarget.depth_of_plain_spelling` — which spellings of a path count alike.
-/

set_option autoImplicit false

namespace LogMigration

namespace LoggerTarget

open LogMigration.Path LogMigration.Path.Component

section Located

variable {cwd file : Path} {target : LoggerTarget}

theorem located_of_below {rest : List Component}
    (h : file.absolute cwd = target.treeRoot.absolute cwd ++ rest) :
    target.located cwd file = rest := by
  have covered : target.covers cwd file = true := by
    rw [covers, List.isPrefixOf_iff_prefix]
    exact ⟨rest, h.symm⟩
  rw [located, if_pos covered, h, List.drop_left]

theorem mem_tail_of_below (hcwd : cwd.isAbsolute = true) (hroot : target.treeRoot.text ≠ [])
    {rest : List Component} (h : file.absolute cwd = target.treeRoot.absolute cwd ++ rest)
    {c : Component} (hc : c ∈ rest) : c ∈ (file.absolute cwd).tail := by
  rw [h, absolute_eq hcwd hroot]
  simp [hc]

theorem located_of_not_below (h : ¬ target.treeRoot.absolute cwd <+: file.absolute cwd) :
    target.located cwd file = file.absolute cwd := by
  have elsewhere : ¬ target.covers cwd file = true := by
    rwa [covers, List.isPrefixOf_iff_prefix]
  rw [located, if_neg elsewhere]

end Located

/-! ## Following a specifier -/

section Specifier

variable (cwd : Path) (target : LoggerTarget) (file : Path)

theorem specifier_begins : "./".toList <+: target.specifier cwd file
    ∨ "../".toList <+: target.specifier cwd file := by
  unfold specifier
  split
  · exact .inl (List.prefix_append _ _)
  · rename_i n hn
    obtain ⟨n, hdepth⟩ := Nat.exists_eq_succ_of_ne_zero hn
    rw [hdepth, List.replicate_succ, List.flatten_cons, List.append_assoc]
    exact .inr (List.prefix_append _ _)

/-- A specifier takes as many names away as the depth says, and goes on with the module. -/
theorem leadsTo_specifier (here : Location) :
    leadsTo here (target.specifier cwd file)
      = leadsTo (here.take (here.length - target.depth cwd file)) target.module := by
  unfold specifier
  split
  · rename_i hdepth
    rw [leadsTo_current, hdepth, Nat.sub_zero, List.take_length]
  · exact leadsTo_parents _ _ _

end Specifier

section Place

variable {cwd file : Path} {target : LoggerTarget} (hcwd : cwd.isAbsolute = true)
  (hfile : file.text ≠ [])

include hcwd hfile

/-- The names below the tree root, less that of the file, are those that the specifier takes away. -/
theorem leadsTo_specifier_of_below (hroot : target.treeRoot.text ≠ []) {names : Location}
    (hnames : names ≠ [])
    (h : file.absolute cwd = target.treeRoot.absolute cwd ++ names.map .normal) :
    leadsTo (file.location cwd).dropLast (target.specifier cwd file)
      = leadsTo (target.treeRoot.location cwd) target.module := by
  have hdepth : target.depth cwd file = names.length - 1 := by
    rw [depth, located_of_below h, names_normal]
  have place : file.location cwd = target.treeRoot.location cwd ++ names := by
    rw [location_eq hcwd hfile, location_eq hcwd hroot, h, leads_append, leads_normal]
  rw [leadsTo_specifier, place, List.dropLast_append_of_ne_nil hnames, List.length_append,
    List.length_dropLast, hdepth, Nat.add_sub_cancel, List.take_left]

/-- Of a file elsewhere the specifier takes all names away. -/
theorem leadsTo_specifier_of_not_below
    (h : ¬ target.treeRoot.absolute cwd <+: file.absolute cwd) :
    leadsTo (file.location cwd).dropLast (target.specifier cwd file)
      = leadsTo [] target.module := by
  have few : (file.location cwd).length ≤ names (file.absolute cwd) := by
    have most := length_leads_le [] (file.absolute cwd)
    rwa [List.length_nil, Nat.zero_add, ← location_eq hcwd hfile] at most
  have nothing : (file.location cwd).dropLast.length - target.depth cwd file = 0 := by
    rw [depth, located_of_not_below h, List.length_dropLast]
    omega
  rw [leadsTo_specifier, nothing, List.take_zero]

end Place

/-- The specifier of a file leads from the file's directory to the module of the tree root, if the
file's path goes on from the tree root without `..`.  If it does not go on from the tree root, the
specifier leads to the module of the filesystem root.  It is relative in every case. -/
theorem specifier_leads_to_module (cwd file : Path) (target : LoggerTarget) :
    ("./".toList <+: target.specifier cwd file ∨ "../".toList <+: target.specifier cwd file)
      ∧ (cwd.isAbsolute = true → file.text ≠ [] → target.treeRoot.text ≠ [] →
        (∀ rest, rest ≠ [] → Component.parent ∉ rest →
            file.absolute cwd = target.treeRoot.absolute cwd ++ rest →
            leadsTo (file.location cwd).dropLast (target.specifier cwd file)
              = leadsTo (target.treeRoot.location cwd) target.module)
          ∧ (¬ target.treeRoot.absolute cwd <+: file.absolute cwd →
            leadsTo (file.location cwd).dropLast (target.specifier cwd file)
              = leadsTo [] target.module)) := by
  refine ⟨specifier_begins cwd target file, fun hcwd hfile hroot =>
    ⟨fun rest hrest hdirect hbelow => ?_, leadsTo_specifier_of_not_below hcwd hfile⟩⟩
  obtain ⟨names, rfl⟩ := exists_names_of_subset_tail hcwd hfile
    (fun _ hc => mem_tail_of_below hcwd hroot hbelow hc) hdirect
  have hnames : names ≠ [] := by
    rintro rfl
    exact hrest rfl
  exact leadsTo_specifier_of_below hcwd hfile hroot hnames hbelow

/-- The paths are spelled in different ways.  The first file lies below the tree root, two names
further down; the second one lies elsewhere. -/
theorem specifiers_from_below_and_elsewhere :
    let cwd : Path := ⟨"/work".toList⟩
    let target : LoggerTarget := { treeRoot := ⟨"/work//app/.".toList⟩ }
    let below : Path := ⟨"./app/src//a.js".toList⟩
    let elsewhere : Path := ⟨"/tmp/x/a.js".toList⟩
    target.specifier cwd below = "../utils/logger".toList
      ∧ leadsTo (below.location cwd).dropLast (target.specifier cwd below)
        = leadsTo (target.treeRoot.location cwd) target.module
      ∧ leadsTo (target.treeRoot.location cwd) target.module
        = ["work".toList, "app".toList, "utils".toList, "logger".toList]
      ∧ target.specifier cwd elsewhere = "../../utils/logger".toList
      ∧ leadsTo (elsewhere.location cwd).dropLast (target.specifier cwd elsewhere)
        = leadsTo [] target.module := by
  intro cwd target below elsewhere
  have leads := (specifier_leads_to_module cwd below target).2 rfl (by simp [below]) (by simp [target])
  have leads' :=
    (specifier_leads_to_module cwd elsewhere target).2 rfl (by simp [elsewhere]) (by simp [target])
  refine ⟨by decide +kernel, ?_, by decide +kernel, by decide +kernel, leads'.2 (by decide +kernel)⟩
  exact leads.1 [.normal "src".toList, .normal "a.js".toList] (by simp) (by simp) (by decide +kernel)

/-! ## Plain spellings -/

/-- The target with the plain spelling of its tree root. -/
def normalized (cwd : Path) (target : LoggerTarget) : LoggerTarget :=
  { target with treeRoot := target.treeRoot.normalized cwd }

section Spelling

variable {cwd cwd' file file' : Path} {target target' : LoggerTarget}

theorem depth_congr (hfile : file.absolute cwd = file'.absolute cwd)
    (hroot : target.treeRoot.absolute cwd = target'.treeRoot.absolute cwd) :
    target.depth cwd file = target'.depth cwd file' := by
  unfold depth located covers
  rw [hfile, hroot]

theorem specifier_congr (hdepth : target.depth cwd file = target'.depth cwd file')
    (hmodule : target.module = target'.module) :
    target.specifier cwd file = target'.specifier cwd file' := by
  unfold specifier
  rw [hdepth, hmodule]

theorem staysBelow_tail {cs : List Component} (h : StaysBelow (.root :: cs)) : StaysBelow cs := by
  intro front hfront
  have whole := h (.root :: front) (List.cons_prefix_cons.2 ⟨rfl, hfront⟩)
  simpa [parents, names] using whole

section Plain

variable (hcwd : cwd.isAbsolute = true) (hfile : file.text ≠ []) (hroot : target.treeRoot.text ≠ [])

include hcwd hfile hroot

/-- Below the tree root each `..` counts for one directory too many. -/
theorem depth_normalized_of_below {rest : List Component}
    (h : file.absolute cwd = target.treeRoot.absolute cwd ++ rest) (stays : StaysBelow rest) :
    (target.normalized cwd).depth cwd (file.normalized cwd)
      = target.depth cwd file - parents rest := by
  obtain ⟨below, hlead, hlength⟩ := exists_leads_of_staysBelow stays fun hmem =>
    root_notMem_tail hcwd hfile (mem_tail_of_below hcwd hroot h hmem)
  have place : file.location cwd = target.treeRoot.location cwd ++ below := by
    rw [location_eq hcwd hfile, location_eq hcwd hroot, h, leads_append, hlead]
  have plain : (file.normalized cwd).absolute cwd
      = (target.normalized cwd).treeRoot.absolute cwd ++ below.map .normal := by
    rw [LoggerTarget.normalized, absolute_normalized hcwd hfile, absolute_normalized hcwd hroot,
      place, List.map_append, List.cons_append]
  rw [depth, depth, located_of_below plain, located_of_below h, names_normal, hlength]
  omega

omit hroot in
/-- A tree root with `..` covers no path without, so the directories of such a file are all
counted. -/
theorem depth_of_parent_in_root (hup : Component.parent ∈ target.treeRoot.absolute cwd)
    (hdirect : Component.parent ∉ file.absolute cwd) :
    target.depth cwd file = (file.location cwd).length - 1 := by
  have elsewhere : ¬ target.treeRoot.absolute cwd <+: file.absolute cwd := fun hbelow =>
    hdirect (hbelow.subset hup)
  rw [depth, located_of_not_below elsewhere, absolute_of_direct hcwd hfile hdirect,
    ← names_normal (file.location cwd)]
  rfl

omit hroot in
/-- So it does elsewhere, if the plain spelling leads elsewhere too. -/
theorem depth_normalized_of_not_below
    (h : ¬ target.treeRoot.absolute cwd <+: file.absolute cwd)
    (h' : ¬ (target.normalized cwd).treeRoot.absolute cwd <+: (file.normalized cwd).absolute cwd)
    (stays : StaysBelow (file.absolute cwd)) :
    (target.normalized cwd).depth cwd (file.normalized cwd)
      = target.depth cwd file - parents (file.absolute cwd) := by
  have whole : file.absolute cwd = .root :: (file.absolute cwd).tail := by
    rw [absolute_eq hcwd hfile, List.tail_cons]
  have rootless := root_notMem_tail hcwd hfile
  generalize (file.absolute cwd).tail = way at whole rootless
  rw [whole] at stays
  obtain ⟨below, hlead, hlength⟩ := exists_leads_of_staysBelow (staysBelow_tail stays) rootless
  have place : file.location cwd = below := by
    rw [location_eq hcwd hfile, whole]
    exact hlead []
  have first : names (.root :: way) = names way ∧ parents (.root :: way) = parents way := by
    simp [names, parents]
  have plain : names ((file.normalized cwd).absolute cwd) = below.length := by
    rw [absolute_normalized hcwd hfile, place, ← names_normal below]
    simp [names]
  rw [depth, depth, located_of_not_below h, located_of_not_below h', plain, hlength, whole,
    first.1, first.2]
  omega

end Plain

/-- Spellings without `..` count alike: the depth and the specifier of a file stay the same when such a
path is replaced by its plain spelling, be it the file or the tree root.  With `..` they do not.  A
tree root with `..` covers no file without, wherever it leads.  On the way that is counted each `..`
makes the depth one too large: it is no name, and the name that it takes back is counted. -/
theorem depth_of_plain_spelling {cwd file : Path} {target : LoggerTarget}
    (hcwd : cwd.isAbsolute = true) (hfile : file.text ≠ []) (hroot : target.treeRoot.text ≠ []) :
    (Component.parent ∉ file.absolute cwd →
        target.depth cwd (file.normalized cwd) = target.depth cwd file
          ∧ target.specifier cwd (file.normalized cwd) = target.specifier cwd file)
      ∧ (Component.parent ∉ target.treeRoot.absolute cwd →
        (target.normalized cwd).depth cwd file = target.depth cwd file
          ∧ (target.normalized cwd).specifier cwd file = target.specifier cwd file)
      ∧ (Component.parent ∈ target.treeRoot.absolute cwd → Component.parent ∉ file.absolute cwd →
        target.depth cwd file = (file.location cwd).length - 1)
      ∧ (StaysBelow (target.located cwd file) →
        (target.normalized cwd).covers cwd (file.normalized cwd) = target.covers cwd file →
        (target.normalized cwd).depth cwd (file.normalized cwd)
          = target.depth cwd file - parents (target.located cwd file)) := by
  refine ⟨fun hdirect => ?_, fun hdirect => ?_, depth_of_parent_in_root hcwd hfile,
    fun stays hcovers => ?_⟩
  · have same : (file.normalized cwd).absolute cwd = file.absolute cwd := by
      rw [absolute_normalized hcwd hfile, absolute_of_direct hcwd hfile hdirect]
    have counted : target.depth cwd (file.normalized cwd) = target.depth cwd file :=
      depth_congr same rfl
    exact ⟨counted, specifier_congr counted rfl⟩
  · have same : (target.normalized cwd).treeRoot.absolute cwd = target.treeRoot.absolute cwd := by
      rw [LoggerTarget.normalized, absolute_normalized hcwd hroot,
        absolute_of_direct hcwd hroot hdirect]
    have counted : (target.normalized cwd).depth cwd file = target.depth cwd file :=
      depth_congr rfl same
    exact ⟨counted, specifier_congr counted rfl⟩
  · by_cases hbelow : target.treeRoot.absolute cwd <+: file.absolute cwd
    · obtain ⟨rest, hrest⟩ := hbelow
      rw [located_of_below hrest.symm] at stays ⊢
      exact depth_normalized_of_below hcwd hfile hroot hrest.symm stays
    · have plain_elsewhere :
          ¬ (target.normalized cwd).treeRoot.absolute cwd <+: (file.normalized cwd).absolute cwd := by
        rw [← List.isPrefixOf_iff_prefix] at hbelow ⊢
        have uncovered : ¬ target.covers cwd file = true := hbelow
        rwa [← hcovers] at uncovered
      rw [located_of_not_below hbelow] at stays ⊢
      exact depth_normalized_of_not_below hcwd hfile hbelow plain_elsewhere stays

/-- The same directory in two spellings, once on the way to the file and once as the tree root.  With
`..` the file seems to lie one directory deeper, and outside the tree. -/
theorem depth_of_paths_with_parent :
    let cwd : Path := ⟨"/".toList⟩
    let file : Path := ⟨"src/../lib/a.js".toList⟩
    let direct : Path := ⟨"./lib//a.js".toList⟩
    let target : LoggerTarget := {}
    let climbing : LoggerTarget := { treeRoot := ⟨"src/../lib".toList⟩ }
    StaysBelow (target.located cwd file)
      ∧ target.depth cwd file = 2
      ∧ (target.normalized cwd).depth cwd (file.normalized cwd) = 2 - 1
      ∧ climbing.depth cwd direct = (direct.location cwd).length - 1
      ∧ (climbing.normalized cwd).depth cwd direct = 0
      ∧ target.depth cwd (direct.normalized cwd) = target.depth cwd direct := by
  intro cwd file direct target climbing
  have stays : StaysBelow (target.located cwd file) := by decide +kernel
  have covered : (target.normalized cwd).covers cwd (file.normalized cwd)
      = target.covers cwd file := by decide +kernel
  have deep : target.depth cwd file = 2 := by decide +kernel
  have ups : parents (target.located cwd file) = 1 := by decide +kernel
  have counted := (@depth_of_plain_spelling cwd file target rfl (by simp [file])
    (by simp [target])).2.2.2 stays covered
  have outside := (@depth_of_plain_spelling cwd direct climbing rfl (by simp [direct])
    (by simp [climbing])).2.2.1 (by decide +kernel) (by decide +kernel)
  have alike := (@depth_of_plain_spelling cwd direct target rfl (by simp [direct])
    (by simp [target])).1 (by decide +kernel)
  rw [deep, ups] at counted
  exact ⟨stays, deep, counted, outside, by decide +kernel, alike.1⟩

end Spelling

end LoggerTarget

end LogMigration
