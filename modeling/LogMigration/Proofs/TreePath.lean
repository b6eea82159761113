import LogMigration.FileTree.Resolve
import Mathlib.Data.List.Induction
import Mathlib.Data.List.Nodup

/-!
# Paths below a directory

Every file below a directory is found under the path of the directory with the names on the way
joined to it, however the directory's own path is spelled and whatever links it leads through.

* `FileTree.IsName`, `FileTree.WellFormed` — the names that entries can have, and the trees that are
  made of them; `FileTree.IsPlain` — those that hold files and directories only.
* `Path.ahead`, `Path.text_joined` — the text of a joined path: what stands in front of the names,
  and the names with slashes between them.
* `FileTree.segments_joined` — the segments of a joined path.
* `Path.extension?_joined` — its extension is that of its last name.
* `WellFormed.resolve_joined` — it leads to the entry.
-/

set_option autoImplicit false

namespace LogMigration

/-! ## Names and joined paths -/

namespace FileTree

/-- Whether an entry of a directory can have the name. -/
structure IsName (name : Text) : Prop where
  ne_nil : name ≠ []
  slash : '/' ∉ name
  nul : '\x00' ∉ name
  ne_current : name ≠ ['.']
  ne_parent : name ≠ ['.', '.']
  short : (Utf8.encode name).length ≤ nameLimit

instance (name : Text) : Decidable (IsName name) :=
  decidable_of_iff (name ≠ [] ∧ '/' ∉ name ∧ '\x00' ∉ name ∧ name ≠ ['.'] ∧ name ≠ ['.', '.']
      ∧ (Utf8.encode name).length ≤ nameLimit)
    ⟨fun ⟨h₁, h₂, h₃, h₄, h₅, h₆⟩ => ⟨h₁, h₂, h₃, h₄, h₅, h₆⟩,
      fun h => ⟨h.ne_nil, h.slash, h.nul, h.ne_current, h.ne_parent, h.short⟩⟩

/-- The segments of a path that say something. -/
def parts (p : Path) : List Text := (Text.splitAt '/' p.text).filter (· ≠ [])

theorem segments_eq (p : Path) :
    segments p = parts p ++ if p.text.getLast? = some '/' then [['.']] else [] := by
  unfold segments
  dsimp only
  split
  · rfl
  · rw [List.append_nil]
    rfl

end FileTree

namespace Path

/-- The segments of a directory that stand in front of a name that is joined to it: all but an empty
last one. -/
def ahead (p : Path) : List Text :=
  if p.text = [] ∨ p.text.getLast? = some '/' then (Text.splitAt '/' p.text).dropLast
  else Text.splitAt '/' p.text

theorem splitAt_eq_ahead (p : Path) :
    Text.splitAt '/' p.text = p.ahead ∨ Text.splitAt '/' p.text = p.ahead ++ [[]] := by
  unfold ahead
  split
  · rename_i h
    rcases h with h | h
    · exact .inr (by rw [h]; rfl)
    · obtain ⟨x, hx⟩ := List.getLast?_eq_some_iff.1 h
      rw [hx, Text.splitAt_append_cons]
      exact .inr (by simp [Text.splitAt])
  · exact .inl rfl

theorem slash_notMem_of_mem_ahead {p : Path} {s : Text} (h : s ∈ p.ahead) : '/' ∉ s := by
  refine Text.notMem_of_mem_splitAt (s := p.text) ?_
  rcases p.splitAt_eq_ahead with hp | hp <;> simp [hp, h]

theorem text_join (p : Path) (name : Text) :
    (p.join name).text = p.ahead.flatMap (· ++ ['/']) ++ name := by
  unfold join ahead
  split
  · rename_i h
    rcases h with h | h
    · simp [h, Text.splitAt]
    · obtain ⟨x, hx⟩ := List.getLast?_eq_some_iff.1 h
      have segments : (Text.splitAt '/' p.text).dropLast = Text.splitAt '/' x := by
        rw [hx, Text.splitAt_append_cons]
        simp [Text.splitAt]
      rw [segments, Text.flatMap_splitAt, hx]
  · rw [Text.flatMap_splitAt]
    simp

section Joined

variable {p : Path} {name : Text}

theorem open_join (hne : name ≠ []) (hslash : '/' ∉ name) :
    ¬((p.join name).text = [] ∨ (p.join name).text.getLast? = some '/') := by
  rw [text_join, List.getLast?_append_of_ne_nil _ hne]
  rintro (h | h)
  · exact hne (List.append_eq_nil_iff.1 h).2
  · exact hslash (List.mem_of_getLast? h)

theorem ahead_join (hne : name ≠ []) (hslash : '/' ∉ name) :
    (p.join name).ahead = p.ahead ++ [name] := by
  rw [ahead, if_neg (open_join hne hslash), text_join,
    Text.splitAt_flatMap_append fun _ => slash_notMem_of_mem_ahead, Text.splitAt_of_notMem hslash]

variable {names : List Text} (hn : ∀ n ∈ names, n ≠ [] ∧ '/' ∉ n)

include hn

theorem ahead_joined : (names.foldl join p).ahead = p.ahead ++ names := by
  induction names generalizing p with
  | nil => exact (List.append_nil _).symm
  | cons name names ih =>
    obtain ⟨⟨hne, hslash⟩, hnames⟩ := List.forall_mem_cons.1 hn
    rw [List.foldl_cons, ih hnames, ahead_join hne hslash, List.append_assoc,
      List.singleton_append]

/-- A joined path is that of the directory and, behind it, the names with slashes between them. -/
theorem text_joined (hne : names ≠ []) : (names.foldl join p).text
    = p.ahead.flatMap (· ++ ['/']) ++ Text.joinWith ['/'] names := by
  obtain ⟨init, name, rfl⟩ := (List.eq_nil_or_concat names).resolve_left hne
  rw [List.concat_eq_append] at hn ⊢
  rw [List.foldl_append, List.foldl_cons, List.foldl_nil, text_join,
    ahead_joined fun n h => hn n (List.mem_append_left _ h), List.flatMap_append,
    Text.joinWith_concat, List.append_assoc]

end Joined

/-- Joining names keeps a path free of NUL, and absolute or relative as it is. -/
theorem spelling_joined {root : Path} (hempty : root.text ≠ []) (hnul : '\x00' ∉ root.text)
    {names : List Text} (hn : ∀ n ∈ names, FileTree.IsName n) :
    '\x00' ∉ (names.foldl join root).text ∧ (names.foldl join root).text ≠ []
      ∧ (names.foldl join root).isAbsolute = root.isAbsolute := by
  induction names generalizing root with
  | nil => exact ⟨hnul, hempty, rfl⟩
  | cons name names ih =>
    obtain ⟨hname, hnames⟩ := List.forall_mem_cons.1 hn
    have joined : (root.join name).text ≠ [] ∧ '\x00' ∉ (root.join name).text
        ∧ (root.join name).isAbsolute = root.isAbsolute := by
      obtain ⟨c, cs, h⟩ := List.exists_cons_of_ne_nil hempty
      have nul := hname.nul
      unfold isAbsolute join
      split <;> simp_all
    obtain ⟨hnul', hempty', habsolute⟩ := ih joined.1 joined.2.1 hnames
    exact ⟨hnul', hempty', habsolute.trans joined.2.2⟩

theorem fileName?_join (p : Path) {name : Text} (hn : FileTree.IsName name) :
    (p.join name).fileName? = some name := by
  have component : bodyComponent? name = some (.normal name) := by
    unfold bodyComponent?
    split
    · exact absurd rfl hn.ne_nil
    · exact absurd rfl hn.ne_current
    · exact absurd rfl hn.ne_parent
    · rfl
  have last : (p.join name).components.getLast? = some (.normal name) := by
    unfold components
    simp only [text_join, Text.splitAt_flatMap_append fun _ => slash_notMem_of_mem_ahead,
      Text.splitAt_of_notMem hn.slash, List.filterMap_append, List.filterMap_cons, component,
      List.filterMap_nil]
    rw [← List.append_assoc, List.getLast?_concat]
  simp only [fileName?, last]

end Path

namespace FileTree

theorem parts_eq (p : Path) : parts p = p.ahead.filter (· ≠ []) := by
  rw [parts]
  rcases p.splitAt_eq_ahead with hp | hp <;> simp [hp]

variable {root : Path} {names : List Text}

theorem parts_joined (hn : ∀ n ∈ names, IsName n) :
    parts (names.foldl Path.join root) = parts root ++ names := by
  have kept : names.filter (· ≠ []) = names :=
    List.filter_eq_self.2 fun n h => by simpa using (hn n h).ne_nil
  rw [parts_eq, parts_eq, Path.ahead_joined fun n h => ⟨(hn n h).ne_nil, (hn n h).slash⟩,
    List.filter_append, kept]

theorem segments_joined (hne : names ≠ []) (hn : ∀ n ∈ names, IsName n) :
    segments (names.foldl Path.join root) = parts root ++ names := by
  obtain ⟨init, name, rfl⟩ := (List.eq_nil_or_concat names).resolve_left hne
  rw [List.concat_eq_append] at hn ⊢
  have hname : IsName name := hn name (by simp)
  have open_end : (((init ++ [name]).foldl Path.join root).text).getLast? ≠ some '/' := by
    rw [List.foldl_append, List.foldl_cons, List.foldl_nil]
    exact (not_or.1 (Path.open_join hname.ne_nil hname.slash)).2
  rw [segments_eq, parts_joined hn, if_neg open_end, List.append_nil]

end FileTree

theorem Path.extension?_joined {root : Path} {names : List Text} (hne : names ≠ [])
    (hn : ∀ n ∈ names, FileTree.IsName n) :
    (names.foldl Path.join root).extension? = names.getLast?.bind Path.nameExtension? := by
  obtain ⟨init, name, rfl⟩ := (List.eq_nil_or_concat names).resolve_left hne
  rw [List.concat_eq_append] at hn ⊢
  rw [List.foldl_append, List.foldl_cons, List.foldl_nil, extension?,
    fileName?_join _ (hn name (by simp)), List.getLast?_concat]

/-! ## Trees -/

namespace FileTree

/-- Whether each location of a tree has one entry and names that an entry can have, and lies in a
directory. -/
structure WellFormed (t : FileTree) : Prop where
  nodup : (t.entries.map Prod.fst).Nodup
  location : ∀ p ∈ t.entries, p.1 ≠ [] ∧ ∀ n ∈ p.1, IsName n
  parent : ∀ p ∈ t.entries, t.get? p.1.dropLast = some .directory

/-- Whether a tree holds files and directories only. -/
structure IsPlain (t : FileTree) : Prop extends WellFormed t where
  unlinked : ∀ p ∈ t.entries, ∀ target, p.2 ≠ .link target

theorem mem_of_get? {t : FileTree} {l : Location} {e : Entry} (hl : l ≠ [])
    (h : t.get? l = some e) : (l, e) ∈ t.entries := by
  rw [get?, if_neg hl, Option.map_eq_some_iff] at h
  obtain ⟨p, hp, rfl⟩ := h
  obtain rfl : p.1 = l := by simpa using List.find?_some hp
  exact List.mem_of_find?_eq_some hp

theorem mem_of_get?_file {t : FileTree} {l : Location} {content : Bytes} {executable : Bool}
    (h : t.get? l = some (.file content executable)) :
    (l, .file content executable) ∈ t.entries := by
  refine mem_of_get? ?_ h
  rintro rfl
  simp [get?] at h

namespace WellFormed

variable {t : FileTree} (ht : t.WellFormed) {l : Location} {e : Entry}

include ht

theorem get?_of_mem (h : (l, e) ∈ t.entries) : t.get? l = some e := by
  rw [get?, if_neg (ht.location _ h).1, Option.map_eq_some_iff]
  obtain ⟨p, hp⟩ := Option.isSome_iff_exists.1 (List.find?_isSome (p := fun p => p.1 = l).2
    ⟨_, h, by simp⟩)
  obtain rfl : p.1 = l := by simpa using List.find?_some hp
  refine ⟨p, hp, ?_⟩
  have same := List.inj_on_of_nodup_map ht.nodup (List.mem_of_find?_eq_some hp) h rfl
  rw [same]

theorem isName (h : t.get? l = some e) : ∀ n ∈ l, IsName n := by
  by_cases hl : l = []
  · simp [hl]
  · exact (ht.location _ (mem_of_get? hl h)).2

theorem get?_of_below {m : Location} (hm : m ≠ []) (h : t.get? (l ++ m) = some e) :
    t.get? l = some .directory := by
  induction m using List.reverseRecOn generalizing e with
  | nil => exact absurd rfl hm
  | append_singleton m n ih =>
    have mem := mem_of_get? (by simp) h
    have up := ht.parent _ mem
    rw [← List.append_assoc, List.dropLast_concat] at up
    by_cases hm : m = []
    · simpa [hm] using up
    · exact ih hm up

end WellFormed

/-! ## Following a path -/

/-- A way goes on from where its first part leads, with the links that are left, whatever comes
next. -/
theorem resolveFrom_append_cases (t : FileTree) (links : Nat) (here : Location) (xs : List Text) :
    (∃ e, ∀ ys, resolveFrom t true links here (xs ++ ys) = .error e)
      ∨ ∃ l left, ∀ ys,
        resolveFrom t true links here (xs ++ ys) = resolveFrom t true left l ys := by
  fun_induction resolveFrom t true links here xs with
  | case1 links here => exact .inr ⟨here, links, fun _ => rfl⟩
  | case2 links here rest hdir ih =>
    simpa only [List.cons_append, resolveFrom, hdir, if_true] using ih
  | case3 links here rest hdir hne ih =>
    simpa only [List.cons_append, resolveFrom, hdir, hne, if_false, if_true] using ih
  | case4 links here name rest hdir hne hne' hnone =>
    refine .inl ⟨.notFound, fun ys => ?_⟩
    simp only [List.cons_append, resolveFrom, hdir, hne, hne', if_false, hnone]
  | case5 links here name rest hdir hne hne' target hlink h => simp at h
  | case6 here name rest hdir hne hne' target hlink _ =>
    refine .inl ⟨.tooManyLinks, fun ys => ?_⟩
    simp only [List.cons_append, resolveFrom, hdir, hne, hne', if_false, hlink, Bool.not_true,
      Bool.and_false, Bool.false_eq_true]
  | case7 here name rest hdir hne hne' target hlink _ links ih =>
    simpa only [List.cons_append, resolveFrom, hdir, hne, hne', if_false, hlink, Bool.not_true,
      Bool.and_false, Bool.false_eq_true, List.append_assoc, dite_eq_ite] using ih
  | case8 links here name rest hdir hne hne' e hnot hentry ih =>
    cases e with
    | link target => exact absurd rfl (hnot target)
    | file | directory =>
      simpa only [List.cons_append, resolveFrom, hdir, hne, hne', if_false, hentry] using ih
  | case9 links here name rest hdir =>
    refine .inl ⟨.notADirectory, fun ys => ?_⟩
    rw [List.cons_append, resolveFrom]
    split
    · rename_i h
      exact absurd h hdir
    · rfl

/-- The final slash of a directory's path only says that it is a directory. -/
theorem resolveFrom_parts {t : FileTree} {links : Nat} {here l : Location} {p : Path}
    (h : resolveFrom t true links here (segments p) = .ok l) :
    ∃ left, ∀ ys,
      resolveFrom t true links here (parts p ++ ys) = resolveFrom t true left l ys := by
  rw [segments_eq] at h
  rcases resolveFrom_append_cases t links here (parts p) with ⟨e, failed⟩ | ⟨l', left, way⟩
  · rw [failed] at h
    cases h
  · refine ⟨left, fun ys => ?_⟩
    have stays : l' = l := by
      rw [way] at h
      split at h
      · rw [resolveFrom] at h
        split at h
        · rw [if_pos rfl, resolveFrom] at h
          exact Except.ok.inj h
        · cases h
      · rw [resolveFrom] at h
        exact Except.ok.inj h
    rw [way, stays]

/-- A path that leads somewhere: what is asked of its spelling, and the way. -/
theorem resolve_eq_ok_iff {t : FileTree} {follow : Bool} {cwd l : Location} {p : Path} :
    t.resolve cwd p follow = .ok l
      ↔ '\x00' ∉ p.text ∧ p.text ≠ [] ∧ (∀ s ∈ segments p, (Utf8.encode s).length ≤ nameLimit)
        ∧ resolveFrom t follow linkLimit (if p.isAbsolute then [] else cwd) (segments p)
          = .ok l := by
  unfold resolve
  by_cases hnul : '\x00' ∈ p.text
  · simp [hnul]
  by_cases hempty : p.text = []
  · simp [hempty]
  by_cases hlong : ∃ s ∈ segments p, nameLimit < (Utf8.encode s).length
  · have long : ((segments p).any fun s => nameLimit < (Utf8.encode s).length) = true := by
      simpa using hlong
    have not_short : ¬ ∀ s ∈ segments p, (Utf8.encode s).length ≤ nameLimit := by
      simpa using hlong
    simp [hnul, hempty, long, not_short]
  · have not_long : ((segments p).any fun s => nameLimit < (Utf8.encode s).length) = false := by
      simpa using hlong
    have short : ∀ s ∈ segments p, (Utf8.encode s).length ≤ nameLimit := by
      simpa using hlong
    rw [if_neg hnul, if_neg hempty, not_long]
    simp only [Bool.false_eq_true, if_false, hnul, hempty, not_false_eq_true, ne_eq, true_and]
    exact ⟨fun h => ⟨short, h⟩, fun h => h.2⟩

section Below

variable {t : FileTree} {follow : Bool} {links : Nat} {l : Location} {names : List Text} {e : Entry}

/-- The names on the way lead to an entry. -/
theorem WellFormed.resolveFrom_below (ht : t.WellFormed) (h : t.get? (l ++ names) = some e)
    (he : ∀ target, e ≠ .link target) :
    resolveFrom t follow links l names = .ok (l ++ names) := by
  induction names generalizing l with
  | nil => rw [resolveFrom, List.append_nil]
  | cons name names ih =>
    have here : t.get? l = some .directory := ht.get?_of_below (by simp) h
    have hname : IsName name := ht.isName h name (by simp)
    have later := ih (l := l ++ [name]) (by simpa using h)
    rw [List.append_assoc, List.singleton_append] at later
    obtain ⟨e', he', hlink⟩ : ∃ e', t.get? (l ++ [name]) = some e' ∧ ∀ target, e' ≠ .link target := by
      cases names with
      | nil => exact ⟨e, h, he⟩
      | cons n names =>
        exact ⟨.directory, ht.get?_of_below (m := n :: names) (by simp) (by simpa using h),
          fun _ => by simp⟩
    rw [resolveFrom, here]
    dsimp only
    rw [if_neg hname.ne_current, if_neg hname.ne_parent, he']
    cases e' with
    | file content executable => exact later
    | directory => exact later
    | link target => exact absurd rfl (hlink target)

/-- The segments of a relative path lead to an entry. -/
theorem WellFormed.resolve_relative (ht : t.WellFormed) {cwd : Location} {p : Path}
    (hrelative : p.isAbsolute = false) (hnul : '\x00' ∉ p.text) (hempty : p.text ≠ [])
    (hl : cwd ++ segments p = l) (h : t.get? l = some e) (he : ∀ target, e ≠ .link target) :
    t.resolve cwd p follow = .ok l := by
  subst hl
  refine resolve_eq_ok_iff.2 ⟨hnul, hempty, fun s hs => ?_, ?_⟩
  · exact (ht.isName h s (List.mem_append_right _ hs)).short
  · rw [hrelative]
    exact ht.resolveFrom_below h he

/-- A joined path leads to the entry. -/
theorem WellFormed.resolve_joined (ht : t.WellFormed) {cwd base : Location} {root : Path}
    (hroot : t.resolve cwd root true = .ok base) (hne : names ≠ [])
    (h : t.get? (base ++ names) = some e) (he : ∀ target, e ≠ .link target) :
    t.resolve cwd (names.foldl Path.join root) true = .ok (base ++ names) := by
  obtain ⟨hnul, hempty, hshort, hway⟩ := resolve_eq_ok_iff.1 hroot
  have valid : ∀ n ∈ names, IsName n := fun n hn => ht.isName h n (List.mem_append_right _ hn)
  have spelled := Path.spelling_joined hempty hnul valid
  rw [resolve_eq_ok_iff, segments_joined hne valid, spelled.2.2]
  refine ⟨spelled.1, spelled.2.1, fun s hs => ?_, ?_⟩
  · rcases List.mem_append.1 hs with hs | hs
    · refine hshort s ?_
      rw [segments_eq]
      exact List.mem_append_left _ hs
    · exact (valid s hs).short
  · obtain ⟨left, way⟩ := resolveFrom_parts hway
    rw [way]
    exact ht.resolveFrom_below h he

end Below

end FileTree

end LogMigration
