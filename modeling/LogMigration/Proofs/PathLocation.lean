import LogMigration.Require.Specifier
import LogMigration.Workspace
import Mathlib.Data.List.Induction
import Mathlib.Data.List.Infix

/-!
# Where a path leads

Read by its spelling alone, a path leads from one location to another, segment by segment: nothing
and `.` stay, `..` goes up, and a name goes down.  The path of the location itself is the plain
spelling of the path.

* `Path.follow`, `Path.leadsTo`, `Path.location` — one segment, a text of them, and a path.
* `Path.normalized` — the plain spelling.
* `Path.location_eq` — the location from the components of the absolute path.
* `Path.absolute_normalized`, `Path.absolute_of_direct` — an absolute path without `..` has the
  components of its plain spelling.
* `Path.Component.exists_leads_of_staysBelow` — each `..` takes one name away, on a way that stays below
  its start.
-/

set_option autoImplicit false

namespace LogMigration

namespace Path

/-! ## Following segments -/

/-- Where one segment leads. -/
def follow (here : Location) (segment : Text) : Location :=
  if segment = [] ∨ segment = ['.'] then here
  else if segment = ['.', '.'] then here.dropLast
  else here ++ [segment]

/-- Where the segments of a text lead, one after the other. -/
def leadsTo (here : Location) (s : Text) : Location := (Text.splitAt '/' s).foldl follow here

/-- Where a path leads, seen from the directory `cwd`. -/
def location (p cwd : Path) : Location :=
  leadsTo (if p.isAbsolute then [] else leadsTo [] cwd.text) p.text

/-- The plain spelling of a path: absolute, without `.`, `..` and empty segments. -/
def normalized (p cwd : Path) : Path := Workspace.pathOf (p.location cwd)

theorem leadsTo_append_cons (here : Location) (x y : Text) :
    leadsTo here (x ++ '/' :: y) = leadsTo (leadsTo here x) y := by
  rw [leadsTo, Text.splitAt_append_cons, List.foldl_append]
  rfl

theorem leadsTo_current (here : Location) (s : Text) :
    leadsTo here ("./".toList ++ s) = leadsTo here s :=
  leadsTo_append_cons here ['.'] s

theorem leadsTo_parent (here : Location) (s : Text) :
    leadsTo here ("../".toList ++ s) = leadsTo here.dropLast s :=
  leadsTo_append_cons here ['.', '.'] s

/-- So many `../` take so many names away. -/
theorem leadsTo_parents (n : Nat) (here : Location) (s : Text) :
    leadsTo here ((List.replicate n "../".toList).flatten ++ s)
      = leadsTo (here.take (here.length - n)) s := by
  induction n generalizing here with
  | zero => rw [Nat.sub_zero, List.take_length, List.replicate_zero, List.flatten_nil, List.nil_append]
  | succ n ih =>
    rw [List.replicate_succ, List.flatten_cons, List.append_assoc, leadsTo_parent, ih,
      List.dropLast_eq_take, List.take_take, List.length_take]
    congr 2
    omega

/-! ## Components -/

namespace Component

/-- Where a component leads. -/
def lead (here : Location) : Component → Location
  | root => []
  | current => here
  | parent => here.dropLast
  | normal name => here ++ [name]

/-- Where components lead, one after the other. -/
def leads (here : Location) (cs : List Component) : Location := cs.foldl lead here

/-- The number of `..` among the components. -/
def parents (cs : List Component) : Nat := cs.countP (· = parent)

/-- Whether a way never goes above its start: no part of it has more `..` than names. -/
def StaysBelow (cs : List Component) : Prop :=
  ∀ front, front <+: cs → parents front ≤ LoggerTarget.names front

instance (cs : List Component) : Decidable (StaysBelow cs) :=
  decidable_of_iff (∀ front ∈ cs.inits, parents front ≤ LoggerTarget.names front)
    (by simp only [StaysBelow, List.mem_inits])

theorem leads_append (here : Location) (xs ys : List Component) :
    leads here (xs ++ ys) = leads (leads here xs) ys := List.foldl_append

theorem leads_normal (here names : Location) : leads here (names.map normal) = here ++ names := by
  induction names generalizing here with
  | nil => simp [leads]
  | cons n names ih =>
    have step : leads here (normal n :: names.map normal)
        = leads (here ++ [n]) (names.map normal) := rfl
    rw [List.map_cons, step, ih, List.append_assoc, List.singleton_append]

theorem names_append (xs ys : List Component) :
    LoggerTarget.names (xs ++ ys) = LoggerTarget.names xs + LoggerTarget.names ys :=
  List.countP_append

theorem parents_append (xs ys : List Component) : parents (xs ++ ys) = parents xs + parents ys :=
  List.countP_append

theorem names_normal (names : Location) :
    LoggerTarget.names (names.map normal) = names.length := by
  rw [LoggerTarget.names, List.countP_map]
  exact List.countP_eq_length.2 fun _ _ => rfl

theorem length_leads_le (here : Location) (cs : List Component) :
    (leads here cs).length ≤ here.length + LoggerTarget.names cs := by
  induction cs using List.reverseRecOn with
  | nil => exact Nat.le_add_right _ _
  | append_singleton cs c ih =>
    have last : leads here (cs ++ [c]) = lead (leads here cs) c := leads_append here cs [c]
    rw [last, names_append]
    cases c with
    | root => exact Nat.zero_le _
    | current =>
      rw [lead]
      omega
    | parent =>
      rw [lead, List.length_dropLast]
      omega
    | normal n =>
      have one : LoggerTarget.names [normal n] = 1 := rfl
      rw [lead, List.length_append, List.length_singleton, one]
      omega

theorem mem_of_mem_leads {here : Location} {cs : List Component} {n : Text}
    (h : n ∈ leads here cs) : n ∈ here ∨ normal n ∈ cs := by
  induction cs using List.reverseRecOn with
  | nil => exact .inl h
  | append_singleton cs c ih =>
    have earlier : n ∈ leads here cs → n ∈ here ∨ normal n ∈ cs ++ [c] := fun hn =>
      (ih hn).imp_right (List.mem_append_left _)
    rw [leads_append] at h
    cases c with
    | root => exact absurd h List.not_mem_nil
    | current => exact earlier h
    | parent => exact earlier (List.dropLast_subset _ h)
    | normal m =>
      rcases List.mem_append.1 h with h | h
      · exact earlier h
      · obtain rfl := List.mem_singleton.1 h
        exact .inr (by simp)

theorem exists_names_of_forall {cs : List Component} (h : ∀ c ∈ cs, ∃ n, c = normal n) :
    ∃ names : Location, cs = names.map normal := by
  induction cs with
  | nil => exact ⟨[], rfl⟩
  | cons c cs ih =>
    obtain ⟨⟨n, rfl⟩, hcs⟩ := List.forall_mem_cons.1 h
    obtain ⟨names, rfl⟩ := ih hcs
    exact ⟨n :: names, rfl⟩

/-- On a way that stays below its start each `..` takes one name away, and what the start has is
kept. -/
theorem exists_leads_of_staysBelow {cs : List Component} (h : StaysBelow cs)
    (hroot : root ∉ cs) :
    ∃ below : Location, (∀ here, leads here cs = here ++ below)
      ∧ below.length = LoggerTarget.names cs - parents cs := by
  induction cs using List.reverseRecOn with
  | nil => exact ⟨[], fun here => (List.append_nil here).symm, rfl⟩
  | append_singleton cs c ih =>
    have stays : StaysBelow cs := fun front hfront =>
      h front (hfront.trans (List.prefix_append cs [c]))
    obtain ⟨below, hlead, hlength⟩ := ih stays fun hmem => hroot (List.mem_append_left _ hmem)
    have whole := h (cs ++ [c]) (List.prefix_refl _)
    rw [parents_append, names_append] at whole ⊢
    cases c with
    | root => exact absurd (by simp) hroot
    | current =>
      refine ⟨below, fun here => ?_, hlength⟩
      rw [leads_append, hlead]
      rfl
    | parent =>
      have up : parents [parent] = 1 := rfl
      have nothing : LoggerTarget.names [parent] = 0 := rfl
      have some_name : below ≠ [] := by
        rintro rfl
        rw [List.length_nil] at hlength
        omega
      refine ⟨below.dropLast, fun here => ?_, ?_⟩
      · rw [leads_append, hlead, ← List.dropLast_append_of_ne_nil some_name]
        rfl
      · rw [List.length_dropLast]
        omega
    | normal n =>
      have none_up : parents [normal n] = 0 := rfl
      have one : LoggerTarget.names [normal n] = 1 := rfl
      have before := stays cs (List.prefix_refl _)
      refine ⟨below ++ [n], fun here => ?_, ?_⟩
      · rw [leads_append, hlead, ← List.append_assoc]
        rfl
      · rw [List.length_append, List.length_singleton]
        omega

end Component

open Component

/-- The segments of a path that say something. -/
def body (p : Path) : List Component := (Text.splitAt '/' p.text).filterMap bodyComponent?

theorem follow_eq (here : Location) (segment : Text) :
    follow here segment = (bodyComponent? segment).elim here (lead here) := by
  unfold follow bodyComponent?
  split
  · rename_i h
    rcases h with rfl | rfl <;> rfl
  · rename_i h
    split
    · rename_i hparent
      rw [hparent]
      rfl
    · rename_i hparent
      split <;> simp_all [lead]

theorem leadsTo_eq (here : Location) (p : Path) : leadsTo here p.text = leads here p.body := by
  rw [leadsTo, leads, body, List.foldl_filterMap]
  congr 1
  funext here segment
  rw [follow_eq]
  cases bodyComponent? segment <;> rfl

theorem mem_body {p : Path} {c : Component} (h : c ∈ p.body) :
    c = .parent ∨ ∃ n, c = .normal n ∧ '/' ∉ n ∧ bodyComponent? n = some c := by
  obtain ⟨n, hn, hc⟩ := List.mem_filterMap.1 h
  have free := Text.notMem_of_mem_splitAt hn
  unfold bodyComponent? at hc
  split at hc
  · cases hc
  · cases hc
  · exact .inl (Option.some.inj hc).symm
  · obtain rfl := Option.some.inj hc
    refine .inr ⟨n, rfl, free, ?_⟩
    unfold bodyComponent?
    split <;> simp_all

theorem steps_eq (p : Path) :
    p.steps = (if p.isAbsolute then [Component.root] else []) ++ p.body := by
  have kept : p.body.filter (· ≠ .current) = p.body := by
    refine List.filter_eq_self.2 fun c hc => ?_
    rcases mem_body hc with rfl | ⟨n, rfl, -, -⟩ <;> simp
  rw [steps, components, List.filter_append]
  refine congrArg₂ (· ++ ·) ?_ kept
  split
  · rfl
  · split <;> rfl

section Absolute

variable {cwd p : Path} (hcwd : cwd.isAbsolute = true) (hp : p.text ≠ [])

include hcwd hp

/-- An absolute path is the filesystem root, and then `..` and names. -/
theorem absolute_eq :
    p.absolute cwd = .root :: ((if p.isAbsolute then [] else cwd.body) ++ p.body) := by
  rw [absolute, if_neg hp, steps_eq, steps_eq, hcwd]
  split <;> simp_all

theorem location_eq : p.location cwd = leads [] (p.absolute cwd) := by
  rw [absolute_eq hcwd hp, location, leadsTo_eq, leadsTo_eq]
  split
  · rfl
  · rw [← leads_append]
    rfl

theorem cases_of_mem_absolute {c : Component} (h : c ∈ (p.absolute cwd).tail) :
    c = .parent ∨ ∃ n, c = .normal n ∧ '/' ∉ n ∧ bodyComponent? n = some c := by
  rw [absolute_eq hcwd hp, List.tail_cons, List.mem_append] at h
  rcases h with h | h
  · split at h
    · exact absurd h List.not_mem_nil
    · exact mem_body h
  · exact mem_body h

/-- Components from behind the root are names if there is no `..` among them. -/
theorem exists_names_of_subset_tail {cs : List Component} (h : cs ⊆ (p.absolute cwd).tail)
    (hdirect : Component.parent ∉ cs) : ∃ names : Location, cs = names.map .normal := by
  refine exists_names_of_forall fun c hc => ?_
  rcases cases_of_mem_absolute hcwd hp (h hc) with rfl | ⟨n, rfl, -, -⟩
  · exact absurd hc hdirect
  · exact ⟨n, rfl⟩

theorem root_notMem_tail : Component.root ∉ (p.absolute cwd).tail := by
  intro h
  rcases cases_of_mem_absolute hcwd hp h with h | ⟨n, h, -, -⟩ <;> cases h

theorem mem_location {n : Text} (h : n ∈ p.location cwd) :
    '/' ∉ n ∧ bodyComponent? n = some (.normal n) := by
  rw [location_eq hcwd hp] at h
  have written : Component.normal n ∈ (p.absolute cwd).tail := by
    rcases mem_of_mem_leads h with h | h
    · exact absurd h List.not_mem_nil
    · rw [absolute_eq hcwd hp] at h ⊢
      simpa using h
  rcases cases_of_mem_absolute hcwd hp written with h | ⟨m, h, free, component⟩
  · cases h
  · cases h
    exact ⟨free, component⟩

/-- The plain spelling of a path has the names of its location. -/
theorem absolute_normalized (cwd' : Path) :
    (p.normalized cwd).absolute cwd' = .root :: (p.location cwd).map .normal := by
  have valid : ∀ n ∈ p.location cwd, '/' ∉ n ∧ bodyComponent? n = some (.normal n) :=
    fun n hn => mem_location hcwd hp hn
  unfold normalized
  generalize p.location cwd = names at valid
  have segments : Text.splitAt '/' (Workspace.pathOf names).text
      = [] :: Text.splitAt '/' (Text.joinWith ['/'] names) :=
    Text.splitAt_append_cons '/' [] (Text.joinWith ['/'] names)
  have said : (Workspace.pathOf names).body = names.map .normal := by
    rw [body, segments, List.filterMap_cons_none rfl]
    by_cases hnames : names = []
    · subst hnames
      rfl
    · rw [Text.splitAt_joinWith hnames fun n hn => (valid n hn).1, ← List.filterMap_eq_map]
      exact List.filterMap_congr fun n hn => (valid n hn).2
  have lead : (Workspace.pathOf names).isAbsolute = true := rfl
  rw [absolute, if_neg (by simp [Workspace.pathOf]), if_pos lead, steps_eq, if_pos lead, said]
  rfl

theorem absolute_of_direct (hdirect : Component.parent ∉ p.absolute cwd) :
    p.absolute cwd = .root :: (p.location cwd).map .normal := by
  obtain ⟨names, hnames⟩ := exists_names_of_subset_tail hcwd hp (List.Subset.refl _) fun h =>
    hdirect (List.mem_of_mem_tail h)
  have whole : p.absolute cwd = .root :: names.map .normal := by
    rw [← hnames, absolute_eq hcwd hp, List.tail_cons]
  have same : p.location cwd = names := by
    rw [location_eq hcwd hp, whole]
    exact leads_normal [] names
  rw [whole, same]

end Absolute

end Path

end LogMigration
