import LogMigration.Proofs.MarkedRun

/-!
# Counting statements in parts

The number of statements of a text in two parts is the sum of those of the parts, unless a statement
begins in the first part and ends in the second.

* `occurrences_append` — the sum, when no statement lies across the border.
* `occurrences_append_cons` — a character that no statement holds is such a border.
* `occurrences_append_opening`, `occurrences_append_loggerOpening` — a statement counts one, and a
  logger call counts for what its name completes.
* `occurrences_eq_zero_iff` — there is no statement exactly when no line has one.
-/

set_option autoImplicit false

namespace LogMigration

/-- A figure that a newline divides is the sum over the lines. -/
theorem Text.figure_ofLines {figure : Text → Nat}
    (h : ∀ x y, figure (x ++ '\n' :: y) = figure x + figure y) {ls : List Text} (hls : ls ≠ []) :
    figure (ofLines ls) = tally figure ls := by
  unfold ofLines
  induction ls with
  | nil => exact absurd rfl hls
  | cons l ls ih =>
    cases ls with
    | nil => simp [joinWith]
    | cons l' ls =>
      rw [joinWith_cons (by simp), List.append_assoc, List.singleton_append, h, ih (by simp),
        tally_cons _ l]

namespace Console

theorem startsStatement_iff {s : Text} :
    startsStatement s = true ↔ ∃ m : Method, m.head <+: s := by
  simp only [startsStatement, List.any_eq_true, Text.startsWith, Option.isSome_iff_exists,
    Text.dropPrefix?_eq_some_iff]
  constructor
  · rintro ⟨m, -, rest, rfl⟩
    exact ⟨m, rest, rfl⟩
  · rintro ⟨m, rest, rfl⟩
    exact ⟨m, by cases m <;> simp, rest, rfl⟩

/-! ## Two parts -/

theorem occurrences_append {x y : Text}
    (h : ∀ (m : Method) (u v : Text), u ≠ [] → u <:+ x → v ≠ [] → m.head = u ++ v → ¬ v <+: y) :
    occurrences (x ++ y) = occurrences x + occurrences y := by
  induction x with
  | nil => simp [occurrences]
  | cons c x ih =>
    have later := ih fun m u v hu hs => h m u v hu (hs.trans (List.suffix_cons c x))
    have here : startsStatement (c :: (x ++ y)) = startsStatement (c :: x) := by
      rw [Bool.eq_iff_iff]
      refine ⟨fun hst => ?_, fun hst => startsStatement_append hst⟩
      obtain ⟨m, hm⟩ := startsStatement_iff.1 hst
      rcases Text.prefix_append_cases (s := c :: x) hm with hm | ⟨v, hv, heq, hp⟩
      · exact startsStatement_iff.2 ⟨m, hm⟩
      · exact absurd hp (h m (c :: x) v (by simp) List.suffix_rfl hv heq)
    simp only [List.cons_append, occurrences, here, later]
    omega

/-- A character that no statement holds divides a text. -/
theorem occurrences_append_cons {c : Char} (hc : ∀ m : Method, c ∉ m.head) (x y : Text) :
    occurrences (x ++ c :: y) = occurrences x + occurrences y := by
  have border : ∀ (m : Method) (v : Text), v ≠ [] → v <:+ m.head → ¬ v <+: c :: y := by
    intro m v hv hs hp
    obtain ⟨d, v, rfl⟩ := List.exists_cons_of_ne_nil hv
    obtain ⟨rfl, -⟩ := List.cons_prefix_cons.1 hp
    exact hc m (hs.subset (by simp))
  have first : occurrences (c :: y) = occurrences y := by
    have : startsStatement (c :: y) = false := by
      rw [← Bool.not_eq_true, startsStatement_iff]
      rintro ⟨m, hm⟩
      exact border m m.head (by cases m <;> decide) List.suffix_rfl hm
    simp [occurrences, this]
  rw [occurrences_append fun m u v _ _ hv heq => border m v hv ⟨u, heq.symm⟩, first]

/-- The first character of a statement occurs only once in it. -/
theorem Method.head_eq_cons (m : Method) : ∃ t, m.head = 'c' :: t ∧ 'c' ∉ t := by
  cases m <;> exact ⟨_, rfl, by decide⟩

theorem occurrences_of_notMem {x : Text} (h : 'c' ∉ x) : occurrences x = 0 := by
  induction x with
  | nil => rfl
  | cons d x ih =>
    simp only [List.mem_cons, not_or] at h
    have : startsStatement (d :: x) = false := by
      rw [← Bool.not_eq_true, startsStatement_iff]
      rintro ⟨m, hm⟩
      obtain ⟨t, ht, -⟩ := m.head_eq_cons
      rw [ht] at hm
      exact h.1 (List.cons_prefix_cons.1 hm).1
    simp [occurrences, this, ih h.2]

/-- A statement counts one, whatever stands in front of it. -/
theorem occurrences_append_opening (x : Text) (m : Method) :
    occurrences (x ++ m.opening) = occurrences x + 1 := by
  rw [occurrences_append]
  · cases m <;> rfl
  · intro m' u v hu _ hv heq hp
    -- What lies behind the border would begin with the `c` of `console`.
    obtain ⟨t, ht, -⟩ := m.head_eq_cons
    obtain ⟨t', ht', once⟩ := m'.head_eq_cons
    obtain ⟨d, v, rfl⟩ := List.exists_cons_of_ne_nil hv
    obtain ⟨e, u, rfl⟩ := List.exists_cons_of_ne_nil hu
    rw [Method.opening, ht, List.cons_append] at hp
    obtain ⟨rfl, -⟩ := List.cons_prefix_cons.1 hp
    rw [ht', List.cons_append] at heq
    exact once (by simp [(List.cons.inj heq).2])

/-- A logger call counts for what its name completes, unless it completes `console`. -/
theorem occurrences_append_loggerOpening {x binding : Text} (m : Method)
    (h : ¬ "console".toList <:+ x ++ binding) :
    occurrences (x ++ m.loggerOpening binding) = occurrences (x ++ binding) := by
  have none_behind : occurrences ('.' :: (m.plainShape.loggerMethod ++ ['('])) = 0 := by
    cases m <;> rfl
  rw [Method.loggerOpening, ← List.append_assoc, occurrences_append, none_behind, Nat.add_zero]
  intro m' u v _ hs hv heq hp
  obtain ⟨d, v, rfl⟩ := List.exists_cons_of_ne_nil hv
  obtain ⟨rfl, hrest⟩ := List.cons_prefix_cons.1 hp
  have names : Text.IsWord m'.name := by cases m' <;> decide
  have stopChar : Text.isWordChar '.' = false := by decide
  have stop : '.' ∉ m.plainShape.loggerMethod ++ ['('] := by cases m <;> decide
  have split : u ++ '.' :: v = "console".toList ++ '.' :: m'.name := by
    rw [← heq]
    cases m' <;> rfl
  have behind : '.' ∉ v := fun hd => stop (hrest.subset hd)
  obtain ⟨rfl, -⟩ := Text.append_cons_inj_last behind (names.notMem stopChar) split
  exact h hs

/-! ## Lines -/

theorem occurrences_eq_tally_lines (s : Text) :
    occurrences s = tally occurrences (Text.lines s) := by
  have border : ∀ x y : Text, occurrences (x ++ '\n' :: y) = occurrences x + occurrences y :=
    occurrences_append_cons fun m => by cases m <;> decide
  rw [← Text.figure_ofLines border (Text.lines_ne_nil s), Text.ofLines_lines]

theorem occurrences_eq_zero_iff {s : Text} : occurrences s = 0 ↔ count s = 0 := by
  constructor
  · intro h
    have := count_le_occurrences s
    omega
  · intro h
    have each : ∀ l ∈ Text.lines s, occurrences l = 0 := by
      intro l hl
      have quiet := List.countP_eq_zero.1 h l hl
      rw [mentions_iff_occurrences_pos] at quiet
      omega
    rw [occurrences_eq_tally_lines]
    generalize Text.lines s = ls at each
    induction ls with
    | nil => rfl
    | cons l ls ih =>
      obtain ⟨hl, hls⟩ := List.forall_mem_cons.1 each
      rw [tally_cons, hl, ih hls]

end Console

end LogMigration
