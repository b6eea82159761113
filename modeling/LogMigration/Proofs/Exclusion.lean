import LogMigration.Proofs.BuiltinScan

/-!
# Exclusion below the root

A listed file has the path of the root with the names on the way joined to it.  Taking the root off
again gives these names with slashes between them, however the root is spelled, so an exclude
pattern is asked about the way from the root to the file and about nothing else.

* `Path.components_eq` — the components of a path from the segments in front of a joined name.
* `Path.trimBlank_dropSegments` — as many segments as say something are dropped, with all that say
  nothing between them.
* `Path.relativeTo?_joined` — the part of a joined path below its directory.
* `excluded_by_names_below_root` — the excluded files are the same for every root.
-/

set_option autoImplicit false

namespace LogMigration

open FileTree

namespace Path

/-! ## Segments that say nothing -/

/-- A segment that says nothing is trimmed with the slash behind it. -/
theorem trimBlank_of_silent {s : Text} (h : bodyComponent? s = none) (rest : Text) :
    trimBlank (s ++ '/' :: rest) = trimBlank rest := by
  unfold bodyComponent? at h
  split at h
  · rfl
  · rfl
  · cases h
  · cases h

theorem trimBlank_of_named {s : Text} (hne : s ≠ []) (hdot : s ≠ ['.']) (hslash : '/' ∉ s)
    (rest : Text) : trimBlank (s ++ rest) = s ++ rest := by
  obtain ⟨c, cs, rfl⟩ := List.exists_cons_of_ne_nil hne
  simp only [List.mem_cons, not_or] at hslash
  by_cases hc : c = '.'
  · subst hc
    obtain ⟨d, ds, rfl⟩ := List.exists_cons_of_ne_nil fun h : cs = [] => hdot (by rw [h])
    simp only [List.mem_cons, not_or] at hslash
    simp [trimBlank, Ne.symm hslash.2.1]
  · simp [trimBlank, hc, Ne.symm hslash.1]

theorem silent_or_named (s : Text) : bodyComponent? s = none ∨ s ≠ [] ∧ s ≠ ['.'] := by
  by_cases hne : s = []
  · exact .inl (by rw [hne]; rfl)
  · by_cases hdot : s = ['.']
    · exact .inl (by rw [hdot]; rfl)
    · exact .inr ⟨hne, hdot⟩

/-- What is dropped from a text depends on what is left when it is trimmed. -/
theorem trimBlank_dropSegments_congr {s t : Text} (h : trimBlank s = trimBlank t) (n : Nat) :
    trimBlank (dropSegments n s) = trimBlank (dropSegments n t) := by
  cases n with
  | zero => exact h
  | succ n => rw [dropSegments, dropSegments, h]

/-- As many segments as say something are dropped, with all that say nothing between them. -/
theorem trimBlank_dropSegments {segments : List Text} (hfree : ∀ s ∈ segments, '/' ∉ s)
    (rest : Text) :
    trimBlank (dropSegments (segments.filterMap bodyComponent?).length
      (segments.flatMap (· ++ ['/']) ++ rest)) = trimBlank rest := by
  induction segments with
  | nil => rfl
  | cons s segments ih =>
    obtain ⟨hs, hsegments⟩ := List.forall_mem_cons.1 hfree
    have later := ih hsegments
    rw [List.flatMap_cons, List.append_assoc, List.append_assoc, List.singleton_append]
    generalize segments.flatMap (· ++ ['/']) ++ rest = t at later ⊢
    cases hcomponent : bodyComponent? s with
    | none =>
      rw [List.filterMap_cons_none hcomponent,
        trimBlank_dropSegments_congr (trimBlank_of_silent hcomponent t), later]
    | some c =>
      obtain ⟨hne, hdot⟩ := (silent_or_named s).resolve_left (by simp [hcomponent])
      have dropped : (s ++ '/' :: t).dropWhile (· ≠ '/') = '/' :: t := by
        rw [List.dropWhile_append_of_pos fun c hc => by simpa using ne_of_mem_of_not_mem hc hs]
        rfl
      have slash : trimBlank ('/' :: t) = trimBlank t := rfl
      rw [List.filterMap_cons_some hcomponent, List.length_cons, dropSegments,
        trimBlank_of_named hne hdot hs, dropped, trimBlank_dropSegments_congr slash, later]

/-! ## The components of a joined path -/

/-- What the first segment of a path says about where the path starts. -/
def start : List Text → List Component
  | [] :: _ => [.root]
  | ['.'] :: _ => [.current]
  | _ => []

theorem ahead_eq_nil_iff {p : Path} : p.ahead = [] ↔ p.text = [] := by
  constructor
  · intro h
    rcases p.splitAt_eq_ahead with hp | hp <;> rw [h] at hp
    · exact absurd hp (Text.splitAt_ne_nil _ _)
    · have whole := Text.joinWith_splitAt '/' p.text
      rw [hp] at whole
      exact whole.symm
  · intro h
    rw [ahead, if_pos (.inl h), h]
    rfl

theorem isAbsolute_iff {p : Path} {s : Text} {segments : List Text}
    (h : p.ahead = s :: segments) : p.isAbsolute = true ↔ s = [] := by
  have hne : p.text ≠ [] := fun hp => by simp [ahead_eq_nil_iff.2 hp] at h
  obtain ⟨tail, closed⟩ : ∃ tail, p.text ++ ['/'] = s ++ '/' :: tail := by
    have whole := Text.flatMap_splitAt '/' p.text
    rcases p.splitAt_eq_ahead with hp | hp
    all_goals
      rw [hp, h] at whole
      exact ⟨_, by rw [← whole]; simp; rfl⟩
  obtain ⟨c, cs, htext⟩ := List.exists_cons_of_ne_nil hne
  rw [isAbsolute, htext, List.head?_cons, decide_eq_true_iff, Option.some.injEq]
  rw [htext, List.cons_append] at closed
  cases s with
  | nil => exact ⟨fun _ => rfl, fun _ => (List.cons.inj closed).1⟩
  | cons d ds =>
    have hd : d ≠ '/' := by
      rintro rfl
      exact slash_notMem_of_mem_ahead (p := p) (by rw [h]; exact List.mem_cons_self)
        List.mem_cons_self
    rw [(List.cons.inj closed).1]
    simp [hd]

/-- The components of a path from the segments in front of a joined name. -/
theorem components_eq (p : Path) :
    p.components = start p.ahead ++ p.ahead.filterMap bodyComponent? := by
  have body : (Text.splitAt '/' p.text).filterMap bodyComponent?
      = p.ahead.filterMap bodyComponent? := by
    rcases p.splitAt_eq_ahead with h | h
    · rw [h]
    · rw [h, List.filterMap_append]
      exact List.append_nil _
  rw [components, body]
  refine congrArg (· ++ _) ?_
  cases hp : p.ahead with
  | nil =>
    have empty := ahead_eq_nil_iff.1 hp
    simp [isAbsolute, empty, Text.splitAt, start]
  | cons s segments =>
    have first : (Text.splitAt '/' p.text).head? = some s := by
      rcases p.splitAt_eq_ahead with h | h <;> rw [h, hp] <;> rfl
    rw [first]
    by_cases hs : s = []
    · rw [if_pos ((isAbsolute_iff hp).2 hs), hs]
      rfl
    · rw [if_neg fun h => hs ((isAbsolute_iff hp).1 h)]
      by_cases hdot : s = ['.']
      · rw [if_pos (by rw [hdot]), hdot]
        rfl
      · rw [if_neg (by simpa using hdot)]
        unfold start
        split <;> simp_all

theorem start_cases (segments : List Text) :
    start segments = [.root] ∨ start segments = [.current] ∨ start segments = [] := by
  unfold start
  split <;> simp

theorem start_append {segments : List Text} (h : segments ≠ []) (more : List Text) :
    start (segments ++ more) = start segments := by
  obtain ⟨s, segments, rfl⟩ := List.exists_cons_of_ne_nil h
  rw [List.cons_append]
  unfold start
  split <;> simp_all

theorem leadLength_eq (p : Path) : p.leadLength = (start p.ahead).length := by
  have others : ∀ c ∈ p.ahead.filterMap bodyComponent?, c ≠ .root ∧ c ≠ .current := by
    intro c hc
    obtain ⟨t, -, ht⟩ := List.mem_filterMap.1 hc
    unfold bodyComponent? at ht
    split at ht <;> cases ht <;> simp
  rw [leadLength, components_eq]
  rcases start_cases p.ahead with h | h | h <;> rw [h]
  · rfl
  · rfl
  · cases hbody : p.ahead.filterMap bodyComponent? with
    | nil => rfl
    | cons c cs =>
      obtain ⟨hroot, hcurrent⟩ := others c (by simp [hbody])
      cases c <;> simp_all

theorem trimBlank_drop_start (s : Text) (segments : List Text) (rest : Text) :
    trimBlank ((s ++ '/' :: rest).drop (start (s :: segments)).length)
      = trimBlank (s ++ '/' :: rest) := by
  unfold start
  split
  · simp_all [trimBlank]
  · simp_all [trimBlank]
  · rfl

theorem components_ne_nil {p : Path} (h : p.ahead ≠ []) : p.components ≠ [] := by
  obtain ⟨s, segments, hp⟩ := List.exists_cons_of_ne_nil h
  rw [components_eq, hp]
  unfold start
  split
  · simp
  · simp
  · rename_i hempty hdot
    obtain ⟨c, hc⟩ := Option.ne_none_iff_exists'.1 fun silent : bodyComponent? s = none => by
      unfold bodyComponent? at silent
      split at silent <;> simp_all
    simp [hc]

section Joined

variable {names : List Text} (hne : names ≠ []) (hn : ∀ n ∈ names, n ≠ [] ∧ n ≠ ['.'] ∧ '/' ∉ n)

include hne hn

theorem trimBlank_joinWith : trimBlank (Text.joinWith ['/'] names) = Text.joinWith ['/'] names := by
  cases names with
  | nil => exact absurd rfl hne
  | cons n names =>
    obtain ⟨hempty, hdot, hslash⟩ := hn n List.mem_cons_self
    obtain ⟨rest, h⟩ : ∃ rest, Text.joinWith ['/'] (n :: names) = n ++ rest := by
      cases names with
      | nil => exact ⟨[], (List.append_nil n).symm⟩
      | cons m names => exact ⟨_, by rw [Text.joinWith_cons (by simp), List.append_assoc]⟩
    rw [h, trimBlank_of_named hempty hdot hslash]

theorem trimBlank_reverse_joinWith : trimBlank (Text.joinWith ['/'] names).reverse
    = (Text.joinWith ['/'] names).reverse := by
  obtain ⟨init, n, rfl⟩ := (List.eq_nil_or_concat names).resolve_left hne
  rw [List.concat_eq_append] at hn ⊢
  obtain ⟨hempty, hdot, hslash⟩ := hn n (by simp)
  rw [Text.joinWith_concat, List.reverse_append]
  refine trimBlank_of_named (by simpa using hempty) (fun h => hdot ?_) (by simpa using hslash) _
  rw [← List.reverse_reverse n, h]
  rfl

theorem start_names : start names = [] := by
  obtain ⟨n, rest, rfl⟩ := List.exists_cons_of_ne_nil hne
  obtain ⟨hempty, hdot, -⟩ := hn n List.mem_cons_self
  unfold start
  split <;> simp_all

/-- The names are left of a joined path when the start of the directory and all that it says are
dropped. -/
theorem trimBlank_drop_directory {root : Path} (hroot : root.ahead ≠ []) :
    trimBlank (dropSegments (root.ahead.filterMap bodyComponent?).length
        ((names.foldl join root).text.drop (names.foldl join root).leadLength))
      = Text.joinWith ['/'] names := by
  have plain : ∀ n ∈ names, n ≠ [] ∧ '/' ∉ n := fun n h => ⟨(hn n h).1, (hn n h).2.2⟩
  have started : trimBlank ((names.foldl join root).text.drop (names.foldl join root).leadLength)
      = trimBlank (names.foldl join root).text := by
    obtain ⟨s, segments, hs⟩ := List.exists_cons_of_ne_nil hroot
    rw [leadLength_eq, ahead_joined plain, start_append hroot, text_joined plain hne, hs,
      List.flatMap_cons]
    simp only [List.append_assoc, List.singleton_append]
    exact trimBlank_drop_start s segments _
  rw [trimBlank_dropSegments_congr started, text_joined plain hne,
    trimBlank_dropSegments fun _ => slash_notMem_of_mem_ahead, trimBlank_joinWith hne hn]

/-- The part of a joined path below its directory: the names with slashes between them. -/
theorem relativeTo?_joined (root : Path) :
    (names.foldl join root).relativeTo? root = some ⟨Text.joinWith ['/'] names⟩ := by
  have plain : ∀ n ∈ names, n ≠ [] ∧ '/' ∉ n := fun n h => ⟨(hn n h).1, (hn n h).2.2⟩
  have ahead : (names.foldl join root).ahead = root.ahead ++ names := ahead_joined plain
  have lead := (names.foldl join root).leadLength_eq
  have below := root.components_eq
  rw [ahead] at lead
  by_cases hroot : root.ahead = []
  · -- The empty path: nothing stands in front of the names, and only the end is trimmed.
    rw [hroot, List.nil_append, start_names hne hn] at lead
    rw [hroot] at below
    rw [relativeTo?, below, lead, text_joined plain hne, hroot]
    simp [start, trimBlank_reverse_joinWith hne hn]
  · rw [start_append hroot] at lead
    have front : root.components.isPrefixOf (names.foldl join root).components = true := by
      rw [List.isPrefixOf_iff_prefix, below, components_eq, ahead, start_append hroot,
        List.filterMap_append, ← List.append_assoc]
      exact List.prefix_append _ _
    have length : root.components.length
        = (names.foldl join root).leadLength + (root.ahead.filterMap bodyComponent?).length := by
      rw [below, List.length_append, lead]
    have positive := List.length_pos_iff.2 (components_ne_nil hroot)
    obtain ⟨n, hcount⟩ : ∃ n, root.components.length = n + 1 :=
      Nat.exists_eq_succ_of_ne_zero (by omega)
    have said : n + 1 - (names.foldl join root).leadLength
        = (root.ahead.filterMap bodyComponent?).length := by omega
    rw [relativeTo?, if_pos front, hcount]
    simp only [trimBlanks, said, trimBlank_drop_directory hne hn hroot,
      trimBlank_reverse_joinWith hne hn, List.reverse_reverse]

end Joined

end Path

/-! ## Excluded files -/

/-- Whether the file that lies under some names below the root is left out. -/
def Config.LeavesOut (c : Config) (w : Workspace) (names : List Text) : Prop :=
  ∃ p, (names, p) ∈ w.tree.filesBelow w.cwd c.root ∧ c.excludes p = true

/-- The patterns are asked about the names below the root. -/
theorem Config.excludes_joined (c : Config) {names : List Text} (hne : names ≠ [])
    (hn : ∀ n ∈ names, n ≠ [] ∧ n ≠ ['.'] ∧ '/' ∉ n) :
    c.excludes (names.foldl Path.join c.root)
      = c.exclude.any fun g => g.fits (Text.joinWith ['/'] names) := by
  rw [excludes, Path.relativeTo?_joined hne hn c.root]
  rfl

theorem Config.leavesOut_iff (c : Config) {w : Workspace} (hw : w.tree.WellFormed)
    {names : List Text} : c.LeavesOut w names
      ↔ (∃ p, (names, p) ∈ w.tree.filesBelow w.cwd c.root)
        ∧ (c.exclude.any fun g => g.fits (Text.joinWith ['/'] names)) = true := by
  have asked : ∀ {p}, (names, p) ∈ w.tree.filesBelow w.cwd c.root → c.excludes p
      = c.exclude.any fun g => g.fits (Text.joinWith ['/'] names) := by
    intro p h
    cases hroot : w.tree.resolve w.cwd c.root true with
    | error e => simp [filesBelow, hroot] at h
    | ok base =>
      obtain ⟨hne, rfl, content, executable, hmem⟩ := (mem_filesBelow_iff hroot).1 h
      refine c.excludes_joined hne fun n hn => ?_
      have valid := (hw.location _ hmem).2 n (List.mem_append_right _ hn)
      exact ⟨valid.ne_nil, valid.ne_current, valid.slash⟩
  constructor
  · rintro ⟨p, hfile, hexcluded⟩
    exact ⟨⟨p, hfile⟩, (asked hfile).symm.trans hexcluded⟩
  · rintro ⟨⟨p, hfile⟩, hfits⟩
    exact ⟨p, hfile, (asked hfile).trans hfits⟩

/-- However the root is spelled and wherever it lies, a file below it is left out exactly if some
pattern fits the names from the root to the file, with slashes between them; and two roots with the
same files below them have the same files left out. -/
theorem excluded_by_names_below_root (c : Config) :
    (∀ names : List Text, names ≠ [] → (∀ n ∈ names, n ≠ [] ∧ n ≠ ['.'] ∧ '/' ∉ n) →
      (c.excludes (names.foldl Path.join c.root) = true
        ↔ ∃ g ∈ c.exclude, g.fits (Text.joinWith ['/'] names) = true))
    ∧ ∀ (c' : Config) (w w' : Workspace), c'.exclude = c.exclude →
      w.tree.WellFormed → w'.tree.WellFormed →
      (∀ names, (∃ p, (names, p) ∈ w'.tree.filesBelow w'.cwd c'.root)
        ↔ ∃ p, (names, p) ∈ w.tree.filesBelow w.cwd c.root) →
      ∀ names, c'.LeavesOut w' names ↔ c.LeavesOut w names := by
  constructor
  · intro names hne hn
    rw [c.excludes_joined hne hn, List.any_eq_true]
  · intro c' w w' hexclude hw hw' hfiles names
    rw [c'.leavesOut_iff hw', c.leavesOut_iff hw, hexclude, hfiles]

/-- One pattern and two roots: the one far from plain, the other in two places. -/
theorem excluded_vendor_file :
    let exclude := (Glob.parse "vendor/**".toList).toOption.toList
    let names := ["vendor".toList, "x.js".toList]
    let file : Entry := .file [] false
    let w : Workspace := { tree := ⟨[(["src".toList], .directory),
      (["src".toList, "vendor".toList], .directory), ("src".toList :: names, file)]⟩ }
    let w' : Workspace := { tree := ⟨[(["app".toList], .directory),
      (["app".toList, "src".toList], .directory),
      (["app".toList, "src".toList, "vendor".toList], .directory),
      ("app".toList :: "src".toList :: names, file)]⟩ }
    Config.excludes { root := ⟨"./srv/.//app/..".toList⟩, exclude }
        ⟨"./srv/.//app/../vendor/x.js".toList⟩ = true
      ∧ Config.LeavesOut { root := ⟨"src".toList⟩, exclude } w names
      ∧ Config.LeavesOut { root := ⟨"app//src".toList⟩, exclude } w' names := by
  intro exclude names file w w'
  have valid : ∀ n ∈ names, n ≠ [] ∧ n ≠ ['.'] ∧ '/' ∉ n := by decide
  have fits : ∃ g ∈ exclude, g.fits (Text.joinWith ['/'] names) = true := by decide +kernel
  have excluded : ∀ root, Config.excludes { root, exclude } (names.foldl Path.join root) = true :=
    fun root => ((excluded_by_names_below_root { root, exclude }).1 names (by decide) valid).2 fits
  have hw : w.tree.WellFormed := ⟨by decide +kernel, by decide +kernel, by decide +kernel⟩
  have hw' : w'.tree.WellFormed := ⟨by decide +kernel, by decide +kernel, by decide +kernel⟩
  have way : w.tree.resolve w.cwd ⟨"src".toList⟩ true = .ok ["src".toList] :=
    hw.resolve_relative rfl (by decide) (by decide) (by decide +kernel)
      (by decide +kernel : w.tree.get? ["src".toList] = some .directory) (by simp)
  have way' : w'.tree.resolve w'.cwd ⟨"app//src".toList⟩ true
      = .ok ["app".toList, "src".toList] :=
    hw'.resolve_relative rfl (by decide) (by decide) (by decide +kernel)
      (by decide +kernel : w'.tree.get? ["app".toList, "src".toList] = some .directory) (by simp)
  have files : w.tree.filesBelow w.cwd ⟨"src".toList⟩ = [(names, ⟨"src/vendor/x.js".toList⟩)] :=
    (filesBelow_eq way).trans (by decide +kernel)
  have files' : w'.tree.filesBelow w'.cwd ⟨"app//src".toList⟩
      = [(names, ⟨"app//src/vendor/x.js".toList⟩)] :=
    (filesBelow_eq way').trans (by decide +kernel)
  have left : Config.LeavesOut { root := ⟨"src".toList⟩, exclude } w names :=
    ⟨_, by rw [files]; exact List.mem_singleton_self _, excluded ⟨"src".toList⟩⟩
  have same := (excluded_by_names_below_root { root := ⟨"src".toList⟩, exclude }).2
    { root := ⟨"app//src".toList⟩, exclude } w w' rfl hw hw' fun _ => by
      rw [files, files']
      simp
  exact ⟨excluded ⟨"./srv/.//app/..".toList⟩, left, (same names).2 left⟩

end LogMigration
