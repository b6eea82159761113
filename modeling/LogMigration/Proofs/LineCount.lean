import LogMigration.Proofs.ModuleReference

/-!
# Lines with statements before and after a conversion

A conversion never raises the number of lines that hold a statement.  A replacement takes place on
one line, or joins lines, and a line that holds a statement afterwards is made of lines one of which
has held one before.

* `Console.count_replace_le` — one part of a text put in the place of another.
* `Rule.count_apply_le` — one rule; `Conversion.count_ofBinding_le` — all of them.
* `LoggerTarget.count_ensureImport` — an import leaves the number as it is.
* `SourceEdit.count_text_le` — a conversion.
-/

set_option autoImplicit false

namespace LogMigration

namespace Console

/-! ## Lines -/

theorem count_append_newline (x y : Text) : count (x ++ '\n' :: y) = count x + count y := by
  rw [count, Text.lines, Text.splitAt_append_cons, List.countP_append]
  rfl

theorem count_of_notMem {s : Text} (h : '\n' ∉ s) :
    count s = if mentions s = true then 1 else 0 := by
  rw [count, Text.lines, Text.splitAt_of_notMem h, List.countP_singleton]

theorem mentions_eq_false_iff {s : Text} : mentions s = false ↔ occurrences s = 0 := by
  rw [← Bool.not_eq_true, mentions_iff_occurrences_pos]
  omega

theorem count_pos_iff {s : Text} : 0 < count s ↔ 0 < occurrences s := by
  have none_there := @occurrences_eq_zero_iff s
  omega

theorem occurrences_of_stop_notMem {x : Text} (h : '.' ∉ x) : occurrences x = 0 := by
  rw [← mentions_eq_false_iff, ← Bool.not_eq_true, mentions, Text.anySuffix_iff]
  rintro ⟨a, b, rfl, hb⟩
  obtain ⟨m, hm⟩ := startsStatement_iff.1 hb
  have stop : '.' ∈ m.head := by cases m <;> decide
  exact h (List.mem_append_right _ (hm.subset stop))

/-- One part of a text is put in the place of another.  The new part stays on its line, and what that
line mentions was mentioned by the line's other parts or by the old part. -/
theorem count_replace_le {new old : Text} (hline : '\n' ∉ new)
    (h : ∀ u v, 0 < occurrences (u ++ new ++ v) →
      0 < occurrences u ∨ 0 < occurrences old ∨ 0 < occurrences v) (x y : Text) :
    count (x ++ new ++ y) ≤ count (x ++ old ++ y) := by
  -- Between two newlines the new part makes one line.
  have line : ∀ u v : Text, '\n' ∉ u → '\n' ∉ v →
      count (u ++ new ++ v) ≤ count (u ++ old ++ v) := by
    intro u v hu hv
    rw [count_of_notMem (by simp [hu, hv, hline])]
    split
    · rename_i hm
      have mentioned := h u v ((mentions_iff_occurrences_pos _).1 hm)
      have left := occurrences_append_le u old
      have right := occurrences_append_le (u ++ old) v
      exact count_pos_iff.2 (by omega)
    · exact Nat.zero_le _
  have left : ∀ u : Text, '\n' ∉ u → count (u ++ new ++ y) ≤ count (u ++ old ++ y) := by
    intro u hu
    by_cases hy : '\n' ∈ y
    · obtain ⟨v, z, rfl, hv⟩ := List.eq_append_cons_of_mem hy
      rw [← List.append_assoc, ← List.append_assoc, count_append_newline, count_append_newline]
      exact Nat.add_le_add_right (line u v hu hv) _
    · exact line u y hu hy
  by_cases hx : '\n' ∈ x
  · obtain ⟨v, z, hrev, hv⟩ := List.eq_append_cons_of_mem (List.mem_reverse.2 hx)
    obtain rfl : x = z.reverse ++ '\n' :: v.reverse := by
      rw [← List.reverse_reverse x, hrev]
      simp
    simp only [List.append_assoc, List.cons_append, count_append_newline]
    have last := left v.reverse (by simpa using hv)
    simp only [List.append_assoc] at last
    exact Nat.add_le_add_left last _
  · exact left x hx

end Console

/-! ## Rules -/

namespace Rule

open Console

variable {r : Rule}

/-- The head of a logger call in the place of that of a console call. -/
theorem count_head_le (hr : '\n' ∉ r.binding) (x y : Text) :
    count (x ++ (r.binding ++ ".".toList ++ r.shape.loggerMethod) ++ y)
      ≤ count (x ++ r.shape.consoleMethod.head ++ y) := by
  have method : '\n' ∉ r.shape.loggerMethod := by cases r.shape <;> decide
  refine count_replace_le (by simp [hr, method]) (fun u v _ => .inr (.inl ?_)) x y
  cases r.shape <;> decide

/-- The details of a logger call in the place of an exception argument. -/
theorem count_details_le (old x y : Text) :
    count (x ++ CallShape.errorWithException.details ++ y) ≤ count (x ++ old ++ y) := by
  refine count_replace_le (by decide) (fun u v h => ?_) x y
  -- The comma at the beginning and the bracket at the end keep statements apart.
  have layout : u ++ CallShape.errorWithException.details ++ v
      = u ++ ',' :: (" \x7b error: error.message, stack: error.stack ".toList ++ '\x7d' :: v) := by
    rw [List.append_assoc]
    rfl
  have comma : ∀ m : Method, ',' ∉ m.head := fun m => by cases m <;> decide
  have bracket : ∀ m : Method, '\x7d' ∉ m.head := fun m => by cases m <;> decide
  have between : occurrences " \x7b error: error.message, stack: error.stack ".toList = 0 := rfl
  rw [layout, occurrences_append_cons comma, occurrences_append_cons bracket, between] at h
  omega

theorem count_render_le (hr : '\n' ∉ r.binding) {s source message rest : Text}
    (h : r.match? s = some (source, message, rest)) (x y : Text) :
    count (x ++ r.render (.call source message) ++ y) ≤ count (x ++ source ++ y) := by
  obtain ⟨-, -, arguments, hending, rfl⟩ := (match?_eq_some_iff.1 h).1
  have heads := count_head_le hr x
    (['(', r.quote.char] ++ message ++ [r.quote.char] ++ r.shape.details ++ ");".toList ++ y)
  have endings : ∀ z : Text,
      count (z ++ r.shape.details ++ ");".toList ++ y) ≤ count (z ++ arguments ++ y) := by
    intro z
    cases hshape : r.shape with
    | errorWithException =>
      rw [hshape] at hending
      obtain ⟨w, -, rfl⟩ := hending
      have replaced := count_details_le (",".toList ++ w ++ "error".toList) z (");".toList ++ y)
      have split : "error);".toList = "error".toList ++ ");".toList := rfl
      simpa only [List.append_assoc, split] using replaced
    | error | info | warn =>
      rw [hshape] at hending
      obtain rfl : arguments = ");".toList := hending
      have bare : z ++ [] = z := List.append_nil z
      exact Nat.le_of_eq (congrArg (fun t => count (t ++ ");".toList ++ y)) bare)
  have ends := endings (x ++ r.shape.consoleMethod.head ++ ['(', r.quote.char] ++ message
    ++ [r.quote.char])
  rw [replacement_eq, head]
  simp only [List.append_assoc] at heads ends ⊢
  exact heads.trans ends

/-- A rule never raises the number of lines with statements. -/
theorem count_apply_le (hr : '\n' ∉ r.binding) (s : Text) : count (r.apply s).1 ≤ count s := by
  have pieces : ∀ x : Text, count (x ++ (r.pieces s).flatMap r.render) ≤ count (x ++ s) := by
    fun_induction pieces r s with
    | case1 => exact fun x => Nat.le_refl _
    | case2 c cs source message rest h ih =>
      intro x
      rw [eq_append_of_match? h, List.flatMap_cons, ← List.append_assoc, ← List.append_assoc]
      have call := count_render_le hr h x ((r.pieces rest).flatMap r.render)
      exact call.trans (ih (x ++ source))
    | case3 c cs h ih =>
      intro x
      have later := ih (x ++ [c])
      simpa [render] using later
  exact pieces []

end Rule

namespace Conversion

open Console

theorem count_run_le {rs : List Rule} (h : ∀ r ∈ rs, '\n' ∉ r.binding) (s : Text) :
    count (run rs s).text ≤ count s := by
  induction rs generalizing s with
  | nil => exact Nat.le_refl _
  | cons r rs ih =>
    obtain ⟨hr, hrs⟩ := List.forall_mem_cons.1 h
    exact (ih hrs (r.apply s).1).trans (Rule.count_apply_le hr s)

theorem count_ofBinding_le {binding : Text} (hb : '\n' ∉ binding) (s : Text) :
    count (ofBinding binding s).text ≤ count s :=
  count_run_le (fun r hr => by rwa [Rule.mem_all_iff.1 hr]) s

end Conversion

/-! ## The import -/

namespace LoggerTarget

open Console

variable (cwd : Path) {target : LoggerTarget} (file : Path)

theorem occurrences_specifier :
    occurrences (target.specifier cwd file) = occurrences target.module := by
  have slash : ∀ m : Method, '/' ∉ m.head := fun m => by cases m <;> decide
  unfold specifier
  split
  · exact (occurrences_append_cons slash ['.'] target.module).trans (Nat.zero_add _)
  · generalize target.depth cwd file = n
    induction n with
    | zero => rfl
    | succ n ih =>
      rw [List.replicate_succ, List.flatten_cons, List.append_assoc]
      have up := occurrences_append_cons slash ['.', '.']
        ((List.replicate n "../".toList).flatten ++ target.module)
      rw [ih] at up
      exact up.trans (Nat.zero_add _)

theorem importLine_eq_fields (specifier : Text) : target.importLine specifier
    = "const".toList ++ ' ' :: (target.binding ++ ' ' :: ("= require(".toList
      ++ '\x27' :: (specifier ++ '\x27' :: ");".toList))) := by
  have keyword : "const ".toList = "const".toList ++ [' '] := rfl
  have call : " = require('".toList = ' ' :: ("= require(".toList ++ ['\x27']) := rfl
  have finish : "');".toList = '\x27' :: ");".toList := rfl
  unfold importLine
  rw [keyword, call, finish]
  simp only [List.append_assoc, List.cons_append, List.nil_append]

theorem occurrences_importLine (hb : Text.IsWord target.binding) (specifier : Text) :
    occurrences (target.importLine specifier) = occurrences specifier := by
  have blank : ∀ m : Method, ' ' ∉ m.head := fun m => by cases m <;> decide
  have quote : ∀ m : Method, '\x27' ∉ m.head := fun m => by cases m <;> decide
  have name : occurrences target.binding = 0 :=
    occurrences_of_stop_notMem (hb.notMem (by decide))
  -- One field of the line after the other, from the left.
  have keyword : ∀ rest, occurrences ("const".toList ++ ' ' :: rest) = occurrences rest :=
    fun rest => (occurrences_append_cons blank _ rest).trans (Nat.zero_add _)
  have binding : ∀ rest, occurrences (target.binding ++ ' ' :: rest) = occurrences rest :=
    fun rest => (occurrences_append_cons blank _ rest).trans (by rw [name, Nat.zero_add])
  have call : ∀ rest, occurrences ("= require(".toList ++ '\x27' :: rest) = occurrences rest :=
    fun rest => (occurrences_append_cons quote _ rest).trans (Nat.zero_add _)
  have finish : occurrences (specifier ++ '\x27' :: ");".toList) = occurrences specifier :=
    occurrences_append_cons quote specifier _
  exact (congrArg occurrences (importLine_eq_fields specifier)).trans
    ((keyword _).trans ((binding _).trans ((call _).trans finish)))

/-- An import of a module whose name mentions no statement leaves the number of lines as it is. -/
theorem count_ensureImport (hb : Text.IsWord target.binding) (hm : mentions target.module = false)
    (s : Text) : count (target.ensureImport cwd file s).1 = count s := by
  by_cases h : ∃ specifier, (target.ensureImport cwd file s).2 = .inserted specifier
  · obtain ⟨specifier, h⟩ := h
    obtain ⟨pre, l, post, hlines, htext⟩ := exists_of_inserted cwd target file h
    have original := Text.figure_ofLines count_append_newline (Text.lines_ne_nil s)
    have none_there : count (target.importLine (target.specifier cwd file)) = 0 := by
      rw [← occurrences_eq_zero_iff, occurrences_importLine hb, occurrences_specifier cwd file,
        ← mentions_eq_false_iff, hm]
    rw [Text.ofLines_lines, hlines] at original
    rw [htext, original, Text.figure_ofLines count_append_newline (by simp)]
    simp only [tally_append, tally_cons, none_there]
    omega
  · rw [fst_ensureImport_of_not_inserted cwd target file s fun specifier hs => h ⟨specifier, hs⟩]

end LoggerTarget

/-- A conversion never raises the number of lines with statements. -/
theorem SourceEdit.count_text_le (cwd : Path) {target : LoggerTarget} (file : Path)
    (hb : Text.IsWord target.binding) (hm : Console.mentions target.module = false) (s : Text) :
    Console.count (SourceEdit.of cwd target file s).text ≤ Console.count s := by
  have newline : '\n' ∉ target.binding := hb.notMem (by decide)
  have converted :=
    Conversion.count_ofBinding_le newline (target.ensureImport cwd file s).1
  rwa [LoggerTarget.count_ensureImport cwd file hb hm] at converted

end LogMigration
