import LogMigration.Proofs.QuotedOpening

/-!
# Passes over a file

A file is converted again and again, each pass on the text that the one before has left.  What is
left to do is measured by the statements in front of a quote and by the import that is missing: no
pass adds to it, and a pass that changes the text takes something away.

* `SourceEdit.textAfter`, `SourceEdit.pass` — the texts and the passes.
* `SourceEdit.remaining` — the measure; `remaining_text_le` and `remaining_text_lt` are the step.
* `SourceEdit.changes_add_remaining_le` — the run: the passes that change the text use it up.
* `SourceEdit.repeated_passes_converge` — the passes settle after as many changes as there are
  statements, and one for the import.
-/

set_option autoImplicit false

namespace LogMigration

namespace SourceEdit

open Console Conversion

/-- The text after some passes over a file. -/
def textAfter (cwd : Path) (target : LoggerTarget) (file : Path) (s : Text) : Nat → Text
  | 0 => s
  | n + 1 => (SourceEdit.of cwd target file (textAfter cwd target file s n)).text

/-- The pass that comes after some others. -/
def pass (cwd : Path) (target : LoggerTarget) (file : Path) (s : Text) (n : Nat) : SourceEdit :=
  SourceEdit.of cwd target file (textAfter cwd target file s n)

/-- What is left to do in a text: the statements in front of a quote, and the import. -/
def remaining (target : LoggerTarget) (s : Text) : Nat :=
  openings s + if Reference.inText target.module s then 0 else 1

theorem remaining_le (target : LoggerTarget) (s : Text) :
    remaining target s ≤ occurrences s + 1 := by
  have few := openings_le_occurrences s
  unfold remaining
  split <;> omega

section Passes

variable (cwd : Path) {target : LoggerTarget} (file : Path) (s : Text)
  (hb : Text.IsWord target.binding)
  (h₁ : ¬ target.binding <:+ "console".toList) (h₂ : ¬ "console".toList <:+ target.binding)
  (hm : Reference.IsQuotable target.module)

/-! ## One pass -/

include hb hm

theorem remaining_ensureImport_lt {specifier : Text}
    (h : (target.ensureImport cwd file s).2 = .inserted specifier) :
    remaining target (target.ensureImport cwd file s).1 < remaining target s := by
  have missing : Reference.inText target.module s = false := by
    rw [← Bool.not_eq_true]
    intro present
    exact (LoggerTarget.not_inserted_iff cwd target file s).2 (.inl present) specifier h
  rw [remaining, remaining, LoggerTarget.openings_ensureImport cwd target file s hb hm,
    LoggerTarget.inText_of_inserted cwd target file h, missing]
  simp

theorem remaining_ensureImport_le :
    remaining target (target.ensureImport cwd file s).1 ≤ remaining target s := by
  by_cases h : ∃ specifier, (target.ensureImport cwd file s).2 = .inserted specifier
  · obtain ⟨specifier, h⟩ := h
    exact (remaining_ensureImport_lt cwd file s hb hm h).le
  · rw [LoggerTarget.fst_ensureImport_of_not_inserted cwd target file s fun x hx => h ⟨x, hx⟩]

include h₁ h₂

/-- Each replacement takes something away. -/
theorem remaining_ofBinding_le :
    remaining target (ofBinding target.binding s).text + (ofBinding target.binding s).replacements
      ≤ remaining target s := by
  have balance := openings_text hb h₁ h₂ s
  unfold remaining
  by_cases h : Reference.inText target.module s = true
  · rw [if_pos h, if_pos (inText_text hb hm h)]
    omega
  · rw [if_neg h]
    split <;> omega

theorem remaining_text_le :
    remaining target (SourceEdit.of cwd target file s).text
      + (SourceEdit.of cwd target file s).ruleHits ≤ remaining target s :=
  (remaining_ofBinding_le _ hb h₁ h₂ hm).trans (remaining_ensureImport_le cwd file s hb hm)

theorem remaining_text_lt (h : (SourceEdit.of cwd target file s).text ≠ s) :
    remaining target (SourceEdit.of cwd target file s).text < remaining target s := by
  have converted :=
    remaining_ofBinding_le (target.ensureImport cwd file s).1 hb h₁ h₂ hm
  by_cases hins : ∃ specifier, (target.ensureImport cwd file s).2 = .inserted specifier
  · obtain ⟨specifier, hins⟩ := hins
    have imported := remaining_ensureImport_lt cwd file s hb hm hins
    simp only [SourceEdit.of]
    omega
  · have same : (target.ensureImport cwd file s).1 = s :=
      LoggerTarget.fst_ensureImport_of_not_inserted cwd target file s fun x hx => hins ⟨x, hx⟩
    simp only [SourceEdit.of, same] at h converted ⊢
    have replaced : (ofBinding target.binding s).replacements ≠ 0 := fun hz =>
      h (text_of_replacements_eq_zero hz)
    omega

omit h₁ h₂

/-- A text with the import keeps it, and a pass that does not find it missing leaves it there. -/
theorem inText_text_of_outcome (h : (SourceEdit.of cwd target file s).importOutcome ≠ .noAnchor) :
    Reference.inText target.module (SourceEdit.of cwd target file s).text = true := by
  refine inText_text hb hm ?_
  rcases LoggerTarget.ensureImport_cases cwd target file s with
    ⟨href, heq⟩ | ⟨-, -, heq⟩ | ⟨-, -, t, heq⟩
  · rw [heq]
    exact href
  · exact absurd (by rw [SourceEdit.of, heq]) h
  · exact LoggerTarget.inText_of_inserted cwd target file (congrArg Prod.snd heq)

/-! ## Many passes -/

theorem inText_textAfter {i j : Nat} (hij : i < j)
    (h : (pass cwd target file s i).importOutcome ≠ .noAnchor) :
    Reference.inText target.module (textAfter cwd target file s j) = true := by
  induction j, hij using Nat.le_induction with
  | base => exact inText_text_of_outcome cwd file _ hb hm h
  | succ j _ ih =>
    refine inText_text_of_outcome cwd file _ hb hm ?_
    simp only [SourceEdit.of, LoggerTarget.ensureImport, ih, if_true]
    simp

include h₁ h₂

/-- The passes that change the text use up what there was to do. -/
theorem changes_add_remaining_le (n : Nat) :
    (List.range n).countP (fun i => (pass cwd target file s i).text ≠ textAfter cwd target file s i)
        + remaining target (textAfter cwd target file s n)
      ≤ remaining target s := by
  induction n with
  | zero => simp [textAfter]
  | succ n ih =>
    rw [List.range_succ, List.countP_append, List.countP_singleton]
    by_cases h : (pass cwd target file s n).text ≠ textAfter cwd target file s n
    · have less := remaining_text_lt cwd file _ hb h₁ h₂ hm h
      rw [if_pos (by simpa using h), textAfter]
      omega
    · have no_more := remaining_text_le cwd file (textAfter cwd target file s n) hb h₁ h₂ hm
      rw [if_neg (by simpa using h), textAfter]
      omega

theorem changes_le (n : Nat) :
    (List.range n).countP (fun i => (pass cwd target file s i).text ≠ textAfter cwd target file s i)
      ≤ occurrences s + 1 := by
  have used := changes_add_remaining_le cwd file s hb h₁ h₂ hm n
  exact (Nat.le_add_right _ _).trans (used.trans (remaining_le target s))

theorem exists_idle_pass :
    ∃ i, i ≤ occurrences s + 1
      ∧ (pass cwd target file s i).text = textAfter cwd target file s i := by
  by_contra h
  have all : (List.range (occurrences s + 2)).countP
      (fun i => (pass cwd target file s i).text ≠ textAfter cwd target file s i)
        = occurrences s + 2 := by
    rw [List.countP_eq_length.2, List.length_range]
    intro i hi
    have early : i ≤ occurrences s + 1 := by
      have := List.mem_range.1 hi
      omega
    simpa using fun heq => h ⟨i, early, heq⟩
  have most := changes_le cwd file s hb h₁ h₂ hm (occurrences s + 2)
  omega

theorem ruleHits_of_idle {i : Nat}
    (h : (pass cwd target file s i).text = textAfter cwd target file s i) :
    (pass cwd target file s i).ruleHits = 0 := by
  have balance : remaining target (pass cwd target file s i).text
      + (pass cwd target file s i).ruleHits ≤ remaining target (textAfter cwd target file s i) :=
    remaining_text_le cwd file _ hb h₁ h₂ hm
  rw [h] at balance
  omega

omit h₁ h₂

theorem alreadyPresent_of_lt {i j : Nat} (hij : i < j)
    (h : (pass cwd target file s i).importOutcome ≠ .noAnchor) :
    (pass cwd target file s j).importOutcome = .alreadyPresent := by
  have found := inText_textAfter cwd file s hb hm hij h
  simp only [pass, SourceEdit.of, LoggerTarget.ensureImport, found, if_true]

theorem not_lt_of_inserted {i j : Nat} {x y : Text}
    (hi : (pass cwd target file s i).importOutcome = .inserted x)
    (hj : (pass cwd target file s j).importOutcome = .inserted y) : ¬ i < j := by
  intro hij
  have later := alreadyPresent_of_lt cwd file s hb hm hij (by rw [hi]; simp)
  rw [hj] at later
  cases later

omit hb hm

theorem textAfter_of_idle {i j : Nat} (hij : i ≤ j)
    (h : (pass cwd target file s i).text = textAfter cwd target file s i) :
    textAfter cwd target file s j = textAfter cwd target file s i := by
  induction j, hij using Nat.le_induction with
  | base => rfl
  | succ j _ ih => rwa [textAfter, ih]

end Passes

/-- Repeated passes over a file converge, whatever its text.  At most as many passes as there are
statements, and one more, change the text, so one of the first does not.  The import is inserted at
most once, and once it has been found or inserted, every later pass finds it.  From the first pass
that leaves the text as it is on, nothing is replaced and the text stays the same. -/
theorem repeated_passes_converge {target : LoggerTarget}
    (hb : Config.isIdentifier target.binding = true)
    (h₁ : ¬ target.binding <:+ "console".toList) (h₂ : ¬ "console".toList <:+ target.binding)
    (hm : Reference.IsQuotable target.module) (cwd file : Path) (s : Text) :
    let text := textAfter cwd target file s
    let edit := pass cwd target file s
    (∀ n, (List.range n).countP (fun i => (edit i).text ≠ text i) ≤ occurrences s + 1)
      ∧ (∃ i, i ≤ occurrences s + 1 ∧ (edit i).text = text i)
      ∧ (∀ i j x y, (edit i).importOutcome = .inserted x → (edit j).importOutcome = .inserted y →
        i = j)
      ∧ (∀ i j, i < j → (edit i).importOutcome ≠ .noAnchor →
        (edit j).importOutcome = .alreadyPresent)
      ∧ ∀ i, (edit i).text = text i →
        ∀ j, i ≤ j → (edit j).text = text i ∧ (edit j).ruleHits = 0 := by
  intro text edit
  have word := Text.isWord_of_isIdentifier hb
  refine ⟨changes_le cwd file s word h₁ h₂ hm, exists_idle_pass cwd file s word h₁ h₂ hm,
    fun i j x y hi hj => ?_, fun i j => alreadyPresent_of_lt cwd file s word hm,
    fun i hi j hij => ?_⟩
  · have before := not_lt_of_inserted cwd file s word hm hi hj
    have behind := not_lt_of_inserted cwd file s word hm hj hi
    omega
  · have same : text j = text i := textAfter_of_idle cwd file s hij hi
    have idle : (edit j).text = text j := by
      simp only [edit, pass, text] at hi same ⊢
      rw [same, hi]
    exact ⟨idle.trans same, ruleHits_of_idle cwd file s word h₁ h₂ hm idle⟩

/-- The two calls share a quote, so it takes two passes to convert both.  The first of them inserts
the import, and no pass after the two changes the text. -/
theorem converge_shared_quote :
    let s := "const a = require('a');\nconsole.log('console.log(');');".toList
    let edit := pass ⟨"/".toList⟩ {} ⟨"a.js".toList⟩ s
    (edit 0).ruleHits = 1 ∧ (edit 1).ruleHits = 1
      ∧ ∀ j, 2 ≤ j → (edit j).ruleHits = 0 ∧ (edit j).importOutcome = .alreadyPresent := by
  intro s edit
  obtain ⟨-, -, -, present, idle⟩ := @repeated_passes_converge {} (by decide) (by decide) (by decide)
    ⟨fun q => by cases q <;> decide, by decide, by decide⟩ ⟨"/".toList⟩ ⟨"a.js".toList⟩ s
  have first : (edit 0).importOutcome = .inserted "./utils/logger".toList := by decide +kernel
  have settled : (edit 2).text = textAfter ⟨"/".toList⟩ {} ⟨"a.js".toList⟩ s 2 := by
    decide +kernel
  refine ⟨by decide +kernel, by decide +kernel, fun j hj => ⟨(idle 2 settled j hj).2, ?_⟩⟩
  exact present 0 j (by omega) (by rw [first]; simp)

end SourceEdit

end LogMigration
