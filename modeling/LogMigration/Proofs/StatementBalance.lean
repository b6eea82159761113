import LogMigration.Proofs.Occurrence
import LogMigration.Proofs.SinglePass

/-!
# Statements before and after a conversion

A replacement takes one statement away.  It brings another one only where the logger's name completes
it: behind `console.` a call on `logger` reads `console.logger`, and that begins like `console.log`.

* `Mark.gain` — the statements that the logger's name completes; `occurrences_textOf_all` is the exact
  balance with them.
* `replacements_eq_countP` — the replacements are the marks at which a call is converted.
* `occurrences_balance` — the balance of a conversion, and exactly when it is even.
-/

set_option autoImplicit false

namespace LogMigration

namespace Mark

open Console

variable {binding : Text} {done : List Rule}

/-! ## Statements by joint -/

theorem occurrences_argumentText {k : Mark} (hk : k.toJoint.Sound) :
    occurrences (k.argumentText binding done) = 0 := by
  unfold argumentText
  cases he : k.exception with
  | none => rfl
  | some w =>
    simp only [Option.elim_some]
    split
    · rfl
    · have white : 'c' ∉ w := fun hc => absurd ((hk.argument w he).1 _ hc) (by decide)
      exact occurrences_of_notMem (by simp [white])

/-- The statements in front of a quote and those behind its exception argument. -/
theorem occurrences_textOf_cons (binding : Text) (done : List Rule) {k : Mark} (hk : k.toJoint.Sound)
    (x t : Text) (ks : List Mark) :
    occurrences (x ++ textOf binding done (k :: ks) ++ t)
      = occurrences (x ++ k.callText binding done)
        + occurrences (k.body ++ textOf binding done ks ++ t) := by
  have quote : ∀ m : Method, k.quote.char ∉ m.head := by
    intro m
    cases k.quote <;> cases m <;> decide
  have bracket : ∀ m : Method, ')' ∉ m.head := by
    intro m
    cases m <;> decide
  have behind : occurrences (k.argumentText binding done ++ (k.body ++ textOf binding done ks ++ t))
      = occurrences (k.body ++ textOf binding done ks ++ t) := by
    cases he : k.exception with
    | none => simp [argumentText, he]
    | some w =>
      obtain ⟨-, rest, hbody⟩ := hk.argument w he
      have closed : k.body ++ textOf binding done ks ++ t
          = [] ++ ')' :: (';' :: rest ++ textOf binding done ks ++ t) := by simp [hbody]
      rw [closed, List.nil_append, occurrences_append_cons bracket, occurrences_argumentText hk,
        ← List.nil_append (')' :: _), occurrences_append_cons bracket]
      rfl
  have layout : x ++ textOf binding done (k :: ks) ++ t
      = (x ++ k.callText binding done) ++ k.quote.char
        :: (k.argumentText binding done ++ (k.body ++ textOf binding done ks ++ t)) := by simp
  rw [layout, occurrences_append_cons quote, behind]

theorem occurrences_callText_of_kept {k : Mark} (h : k.isDone binding done k.opened = false)
    (x : Text) :
    occurrences (x ++ k.callText binding done) = occurrences x + if k.call.isSome then 1 else 0 := by
  cases hc : k.call with
  | none => simp [callText, hc]
  | some m => simp [callText, hc, h, occurrences_append_opening]

theorem occurrences_callText_of_converted (h₁ : ¬ binding <:+ "console".toList)
    (h₂ : ¬ "console".toList <:+ binding) {k : Mark} (hc : k.call.isSome = true)
    (h : k.isDone binding done k.opened = true) (x : Text) :
    occurrences (x ++ k.callText binding done) = occurrences (x ++ binding) := by
  obtain ⟨m, hm⟩ := Option.isSome_iff_exists.1 hc
  simp only [callText, hm, h, Option.elim_some, if_true]
  exact occurrences_append_loggerOpening m (Text.not_suffix_append h₁ h₂ x)

/-! ## The balance -/

/-- The statements that the logger's name completes at the marks where a call is converted. -/
def gain (binding : Text) : Text → List Mark → Nat
  | _, [] => 0
  | x, k :: ks =>
    (if k.opened.isSome then occurrences (x ++ binding) - occurrences x else 0)
      + gain binding k.body ks

/-- Every converted call takes a statement away, and what the logger's name completes is added. -/
theorem occurrences_textOf_all (h₁ : ¬ binding <:+ "console".toList)
    (h₂ : ¬ "console".toList <:+ binding) {pending : Quote → Option CallShape} {ks : List Mark}
    (hl : Linked pending ks) (hs : ∀ k ∈ ks, k.toJoint.Sound) (x : Text) :
    occurrences (x ++ textOf binding (Rule.all binding) ks) + ks.countP (·.opened.isSome)
      = occurrences (x ++ textOf binding [] ks) + gain binding x ks := by
  induction ks generalizing pending x with
  | nil => simp [gain]
  | cons k ks ih =>
    obtain ⟨hk, hks⟩ := List.forall_mem_cons.1 hs
    have later := ih hl.2.2 hks k.body
    have converted := occurrences_textOf_cons binding (Rule.all binding) hk x [] ks
    have original := occurrences_textOf_cons binding [] hk x [] ks
    have kept := occurrences_callText_of_kept (isDone_nil binding k k.opened) x
    simp only [List.append_nil] at converted original
    rw [converted, original, kept, List.countP_cons, gain]
    cases ho : k.opened with
    | none =>
      have untouched : k.isDone binding (Rule.all binding) k.opened = false := by
        simp [Conversion.isDone_all, ho]
      rw [occurrences_callText_of_kept untouched]
      simp
      omega
    | some shape =>
      have hc := (Joint.shape?_eq_some_iff.1 (hl.shape?_of_opened ho)).1
      have replaced : k.isDone binding (Rule.all binding) k.opened = true := by
        simp [Conversion.isDone_all, ho]
      have more := occurrences_append_le x binding
      rw [occurrences_callText_of_converted h₁ h₂ (by simp [hc]) replaced]
      simp [hc]
      omega

/-- The logger's name completes nothing exactly when it completes nothing behind the original text in
front of any converted call. -/
theorem gain_eq_zero_iff {ks : List Mark} (hs : ∀ k ∈ ks, k.toJoint.Sound) (x : Text) :
    gain binding x ks = 0 ↔ ∀ pre k post, ks = pre ++ k :: post → k.opened.isSome = true →
      occurrences (x ++ textOf binding [] pre ++ binding)
        = occurrences (x ++ textOf binding [] pre) := by
  induction ks generalizing x with
  | nil => simp [gain]
  | cons k ks ih =>
    obtain ⟨hk, hks⟩ := List.forall_mem_cons.1 hs
    have shift : ∀ (pre : List Mark),
        (occurrences (x ++ textOf binding [] (k :: pre) ++ binding)
            = occurrences (x ++ textOf binding [] (k :: pre))
          ↔ occurrences (k.body ++ textOf binding [] pre ++ binding)
            = occurrences (k.body ++ textOf binding [] pre)) := by
      intro pre
      have with_name := occurrences_textOf_cons binding [] hk x binding pre
      have without := occurrences_textOf_cons binding [] hk x [] pre
      rw [List.append_nil, List.append_nil] at without
      omega
    rw [gain, Nat.add_eq_zero_iff, ih hks]
    constructor
    · rintro ⟨here, later⟩ pre k' post hsplit ho
      rcases List.cons_eq_append_iff.1 hsplit with ⟨rfl, hcons⟩ | ⟨pre, rfl, rfl⟩
      · obtain ⟨rfl, -⟩ := List.cons.inj hcons
        have more := occurrences_append_le x binding
        rw [if_pos ho] at here
        simp only [textOf_nil, List.append_nil]
        omega
      · exact (shift pre).2 (later pre k' post rfl ho)
    · intro h
      constructor
      · split
        · rename_i ho
          have here := h [] k ks rfl ho
          simp only [textOf_nil, List.append_nil] at here
          omega
        · rfl
      · intro pre k' post hsplit ho
        exact (shift pre).1 (h (k :: pre) k' post (by rw [hsplit]; rfl) ho)

end Mark

/-! ## Replacements -/

namespace Conversion

open Console

theorem tally_hits (binding : Text) (ks : List Mark) :
    tally (fun r => Mark.hits r ks) (Rule.all binding) = ks.countP (·.opened.isSome) := by
  induction ks with
  | nil => rfl
  | cons k ks ih =>
    have one : tally (fun r : Rule =>
        if (k.quote = r.quote && k.opened = some r.shape) = true then 1 else 0) (Rule.all binding)
        = if k.opened.isSome then 1 else 0 := by
      obtain ⟨⟨call, quote, exception, body⟩, opened, closed⟩ := k
      cases quote <;> rcases opened with _ | (_ | _ | _ | _) <;> rfl
    simp only [Mark.hits, List.countP_cons] at ih ⊢
    rw [tally_add, ih, one]

theorem replacements_eq_countP {binding : Text} (hb : Text.IsWord binding) (s : Text) :
    (ofBinding binding s).replacements = (marks s).countP (·.opened.isSome) := by
  rw [ofBinding_eq hb, ← tally_hits binding, replacements]
  generalize Rule.all binding = rs
  induction rs with
  | nil => rfl
  | cons r rs ih => simp only [List.map_cons, tally_cons, ih]

theorem replaces_iff {binding : Text} (hb : Text.IsWord binding) {r : Rule}
    (hr : r.binding = binding) (s a : Text) :
    r.Replaces s a ↔ ∃ pre k post, marks s = pre ++ k :: post ∧ k.quote = r.quote
      ∧ k.opened = some r.shape ∧ a = lead s ++ Mark.textOf binding [] pre := by
  have found := Mark.replaces_textOf_iff hb hr List.not_mem_nil (sound_marks s)
    (linked_marks s) (by simp) a
  rwa [text_marks] at found

/-- A text that is not changed has no converted call: the first one would change it, since the
logger is not `console`. -/
theorem opened_eq_none_of_textOf_eq {binding : Text} (hb : Text.IsWord binding)
    (hne : binding ≠ "console".toList) {ks : List Mark} (hl : Mark.Linked (fun _ => none) ks)
    (h : Mark.textOf binding (Rule.all binding) ks = Mark.textOf binding [] ks) :
    ∀ k ∈ ks, k.opened = none := by
  induction ks with
  | nil => simp
  | cons k ks ih =>
    have stop : Text.isWordChar '.' = false := by decide
    have hclosed : k.closed = none := hl.1
    have argument : k.argumentText binding (Rule.all binding) = k.argumentText binding [] := by
      simp only [Mark.argumentText, hclosed, isDone_all, Mark.isDone_nil, Option.isSome_none]
    rw [Mark.textOf_cons, Mark.textOf_cons, argument] at h
    cases ho : k.opened with
    | none =>
      have front : k.callText binding (Rule.all binding) = k.callText binding [] := by
        simp only [Mark.callText, ho, isDone_all, Mark.isDone_nil, Option.isSome_none]
      have idle : k.after (fun _ => none) = fun _ => none := by
        funext q
        simp [Mark.after, ho]
      rw [front] at h
      have later := List.append_cancel_left (List.cons.inj (List.append_cancel_left h)).2
      exact List.forall_mem_cons.2 ⟨ho, ih (idle ▸ hl.2.2) later⟩
    | some shape =>
      have hc := (Joint.shape?_eq_some_iff.1 (hl.shape?_of_opened ho)).1
      simp only [Mark.callText, hc, ho, isDone_all, Mark.isDone_nil, Option.elim_some,
        Option.isSome_some, if_true, Bool.false_eq_true, if_false, Console.Method.loggerOpening,
        Console.Method.opening_eq, List.append_assoc, List.cons_append] at h
      have same := (Text.append_cons_inj_first (hb.notMem stop) (by decide) h).1
      exact absurd same hne

/-- A conversion leaves a text as it is exactly when it replaces nothing. -/
theorem text_eq_iff {binding : Text} (hb : Text.IsWord binding) (hne : binding ≠ "console".toList)
    (s : Text) : (ofBinding binding s).text = s ↔ (ofBinding binding s).replacements = 0 := by
  refine ⟨fun h => ?_, text_of_replacements_eq_zero⟩
  have same : Mark.textOf binding (Rule.all binding) (marks s)
      = Mark.textOf binding [] (marks s) := by
    rw [ofBinding_eq hb] at h
    exact List.append_cancel_left (h.trans (text_marks binding s).symm)
  rw [replacements_eq_countP hb, List.countP_eq_zero]
  intro k hk
  simp [opened_eq_none_of_textOf_eq hb hne (linked_marks s) same k hk]

theorem replacements_eq_zero_of_count {binding s : Text} (h : count s = 0) :
    (ofBinding binding s).replacements = 0 := by
  rw [replacements_eq_zero_iff]
  intro r _
  rw [← Bool.not_eq_true]
  intro hr
  obtain ⟨a, c, rfl, hc⟩ := Rule.occursIn_iff.1 hr
  obtain ⟨z, rfl, -⟩ := Rule.begins_iff.1 hc
  have statement : occurrences (a ++ r.shape.consoleMethod.opening) = occurrences a + 1 :=
    occurrences_append_opening a _
  have more := occurrences_append_le (a ++ r.shape.consoleMethod.opening) (r.quote.char :: z)
  have none_there := occurrences_eq_zero_iff.2 h
  simp only [Rule.head_eq, List.append_assoc, List.singleton_append] at none_there more
  omega

/-- The balance of a conversion.  Statements are never lost without a replacement, and the count is
even exactly when the logger's name completes no statement behind the text in front of a replaced
call; a text without statements is left alone, and so is exactly a text without replacements. -/
theorem occurrences_balance {binding : Text} (hb : Config.isIdentifier binding = true)
    (h₁ : ¬ binding <:+ "console".toList) (h₂ : ¬ "console".toList <:+ binding) (s : Text) :
    occurrences s ≤ occurrences (ofBinding binding s).text + (ofBinding binding s).replacements
      ∧ (occurrences (ofBinding binding s).text + (ofBinding binding s).replacements = occurrences s
        ↔ ∀ r ∈ Rule.all binding, ∀ a, r.Replaces s a → occurrences (a ++ binding) = occurrences a)
      ∧ (count s = 0 → (ofBinding binding s).text = s ∧ (ofBinding binding s).replacements = 0)
      ∧ ((ofBinding binding s).text = s ↔ (ofBinding binding s).replacements = 0) := by
  have word := Text.isWord_of_isIdentifier hb
  have sound := Mark.sound_of_division (sound_marks s)
  have balance : occurrences (ofBinding binding s).text + (ofBinding binding s).replacements
      = occurrences s + Mark.gain binding (lead s) (marks s) := by
    have total := Mark.occurrences_textOf_all h₁ h₂ (linked_marks s) sound (lead s)
    rw [text_marks] at total
    rw [replacements_eq_countP word, ofBinding_eq word]
    exact total
  refine ⟨by omega, ?_, ?_, ?_⟩
  · have even : Mark.gain binding (lead s) (marks s) = 0
        ↔ ∀ r ∈ Rule.all binding, ∀ a, r.Replaces s a →
          occurrences (a ++ binding) = occurrences a := by
      rw [Mark.gain_eq_zero_iff sound]
      constructor
      · intro h r hr a ha
        have hbinding := Rule.mem_all_iff.1 hr
        obtain ⟨pre, k, post, hks, -, ho, rfl⟩ := (replaces_iff word hbinding s a).1 ha
        exact h pre k post hks (by simp [ho])
      · intro h pre k post hks ho
        obtain ⟨shape, hshape⟩ := Option.isSome_iff_exists.1 ho
        have replaced := (replaces_iff word (r := ⟨shape, k.quote, binding⟩) rfl s _).2
          ⟨pre, k, post, hks, rfl, hshape, rfl⟩
        exact h _ (Rule.mem_all_iff.2 rfl) _ replaced
    rw [← even]
    omega
  · intro h
    have nothing : (ofBinding binding s).replacements = 0 := replacements_eq_zero_of_count h
    exact ⟨text_of_replacements_eq_zero nothing, nothing⟩
  · refine text_eq_iff word ?_ s
    rintro rfl
    exact h₁ List.suffix_rfl

/-- Two calls on one line: nothing in front of them is completed, and the text changes. -/
theorem balance_two_calls :
    (∀ r ∈ Rule.all "logger".toList, ∀ a,
        r.Replaces "a; console.log('x'); console.warn(\"y\");".toList a →
        occurrences (a ++ "logger".toList) = occurrences a)
      ∧ (ofBinding "logger".toList "a; console.log('x'); console.warn(\"y\");".toList).text
        ≠ "a; console.log('x'); console.warn(\"y\");".toList := by
  obtain ⟨-, even, -, unchanged⟩ := occurrences_balance
    (by decide : Config.isIdentifier "logger".toList = true) (by decide) (by decide)
    "a; console.log('x'); console.warn(\"y\");".toList
  exact ⟨even.1 (by decide +kernel), mt unchanged.1 (by decide +kernel)⟩

/-- Behind `console.` the call on `logger` begins with `console.log` again: there is one replacement,
and as many statements as before. -/
theorem uneven_behind_console :
    Config.isIdentifier "logger".toList = true
      ∧ ¬ "logger".toList <:+ "console".toList ∧ ¬ "console".toList <:+ "logger".toList
      ∧ (ofBinding "logger".toList "console.console.log('x');".toList).text
        = "console.logger.info('x');".toList
      ∧ occurrences (ofBinding "logger".toList "console.console.log('x');".toList).text
          + (ofBinding "logger".toList "console.console.log('x');".toList).replacements
        ≠ occurrences "console.console.log('x');".toList := by
  exact ⟨by decide, by decide, by decide, by decide +kernel, by decide +kernel⟩

end Conversion

end LogMigration
