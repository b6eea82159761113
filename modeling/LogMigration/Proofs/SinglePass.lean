import LogMigration.Proofs.Survivor

/-!
# What one pass leaves behind

A text is settled when no rule matches in it.  A call can survive a pass only where two calls of one
rule share a quote, so that the first of them takes the quote that the second would open with.

* `replacements_eq_zero_iff`, `text_of_replacements_eq_zero` — a settled text is left as it is, and no
  other text is without replacements.
* `settled_text_of_no_shared_quote` — one pass settles every text without shared quotes.
-/

set_option autoImplicit false

namespace LogMigration

namespace Conversion

/-! ## Settled texts -/

/-- Whether no rule of a logger name matches in the text. -/
def Settled (binding s : Text) : Prop := ∀ r ∈ Rule.all binding, r.occursIn s = false

theorem run_of_not_occursIn {rs : List Rule} {s : Text} (h : ∀ r ∈ rs, r.occursIn s = false) :
    (run rs s).text = s ∧ (run rs s).replacements = 0 := by
  induction rs with
  | nil => exact ⟨rfl, rfl⟩
  | cons r rs ih =>
    obtain ⟨hr, hrs⟩ := List.forall_mem_cons.1 h
    have none_hit := (r.snd_apply_eq_zero_iff s).2 hr
    have unchanged := Rule.fst_apply_of_snd_eq_zero none_hit
    have later := ih hrs
    simp only [run, unchanged, replacements, tally_cons, none_hit] at later ⊢
    exact ⟨later.1, by rw [later.2]⟩

theorem not_occursIn_of_replacements {rs : List Rule} {s : Text}
    (h : (run rs s).replacements = 0) : ∀ r ∈ rs, r.occursIn s = false := by
  induction rs with
  | nil => simp
  | cons r rs ih =>
    simp only [run, replacements, tally_cons] at h
    have none_hit : (r.apply s).2 = 0 := by omega
    rw [Rule.fst_apply_of_snd_eq_zero none_hit] at h
    have later := ih (by simp only [replacements]; omega)
    exact List.forall_mem_cons.2 ⟨(r.snd_apply_eq_zero_iff s).1 none_hit, later⟩

theorem replacements_eq_zero_iff {binding s : Text} :
    (ofBinding binding s).replacements = 0 ↔ Settled binding s :=
  ⟨not_occursIn_of_replacements, fun h => (run_of_not_occursIn h).2⟩

theorem text_of_replacements_eq_zero {binding s : Text}
    (h : (ofBinding binding s).replacements = 0) : (ofBinding binding s).text = s :=
  (run_of_not_occursIn (not_occursIn_of_replacements h)).1

/-! ## Shared quotes -/

/-- Once all rules are applied, a statement that is left alone opened nothing. -/
theorem isDone_all {binding : Text} {k : Mark} {shape : Option CallShape} :
    k.isDone binding (Rule.all binding) shape = shape.isSome := by
  cases shape <;> simp [Mark.isDone, Rule.mem_all_iff]

/-- A call is left alone only where a converted call of the same shape ends. -/
theorem closed_of_kept {binding : Text} {pending : Quote → Option CallShape} {k : Mark}
    {post : List Mark} {shape : CallShape} (hl : Mark.Linked pending (k :: post))
    (hshape : k.shape? (post.map Mark.toJoint) = some shape)
    (h : k.isDone binding (Rule.all binding) k.opened = false) : k.closed = some shape := by
  rw [isDone_all, hl.opened_of_shape? hshape] at h
  by_cases hclosed : k.closed = some shape
  · exact hclosed
  · simp [hclosed] at h

/-- A call that survives a pass shares its quote with the end of another call of its rule. -/
theorem shared_quote_of_survivor {binding s : Text} (hb : Text.IsWord binding)
    (h₁ : ¬ binding <:+ "console".toList) (h₂ : ¬ "console".toList <:+ binding) {r : Rule}
    (h : r.occursIn (ofBinding binding s).text = true) :
    ∃ e, r.shape.IsEnding e ∧ r.shape.consoleMethod.opening ++ r.quote.char :: e <:+: s := by
  rw [ofBinding_eq hb] at h
  obtain ⟨pre, k, post, hks, hq, hshape, hkept | ⟨-, -, -, hcon⟩⟩ :=
    Mark.kept_or_reads_back hb (linked_marks s) (sound_marks s) h
  · obtain ⟨pending, hl⟩ := exists_linked hks
    have closed := closed_of_kept hl hshape hkept
    have sound : k.toJoint.Sound := sound_of_marks hks k (by simp)
    have linked := linked_marks s
    rw [hks] at linked
    have hc := (Joint.shape?_eq_some_iff.1 hshape).1
    obtain ⟨e, he, t, ht⟩ := Mark.ending_of_ends sound (Mark.ends_of_closed linked closed)
    refine ⟨e, he, lead s ++ Mark.textOf binding [] pre, t ++ Mark.textOf binding [] post, ?_⟩
    have whole := text_marks binding s
    rw [hks, Mark.textOf_append, Mark.textOf_cons, Mark.argumentText_nil, ← ht] at whole
    refine Eq.trans ?_ whole
    simp [Joint.callText, hc, hq]
  · exact absurd hcon (Text.not_suffix_append h₁ h₂ _)

/-- One pass leaves no call of any rule behind, unless the end of a call stands right behind the
head of one: so a second pass finds nothing and changes nothing. -/
theorem settled_text_of_no_shared_quote {binding : Text} (hb : Config.isIdentifier binding = true)
    (h₁ : ¬ binding <:+ "console".toList) (h₂ : ¬ "console".toList <:+ binding) {s : Text}
    (hplain : ∀ (m : Console.Method) (q : Quote), ¬ m.head ++ ['(', q.char] ++ ");".toList <:+: s)
    (hexception : ∀ (q : Quote) (w : Text), (∀ c ∈ w, Text.isWhite c = true) →
      ¬ Console.Method.error.head ++ ['(', q.char, ','] ++ w ++ "error);".toList <:+: s) :
    (∀ r ∈ Rule.all binding, r.occursIn (ofBinding binding s).text = false)
      ∧ (ofBinding binding (ofBinding binding s).text).replacements = 0
      ∧ (ofBinding binding (ofBinding binding s).text).text = (ofBinding binding s).text := by
  have settled : Settled binding (ofBinding binding s).text := by
    intro r _
    rw [← Bool.not_eq_true]
    intro h
    obtain ⟨e, he, hin⟩ :=
      shared_quote_of_survivor (Text.isWord_of_isIdentifier hb) h₁ h₂ h
    cases hshape : r.shape with
    | errorWithException =>
      rw [hshape] at he hin
      obtain ⟨w, hw, rfl⟩ := he
      exact hexception r.quote w hw
        (by simpa [Console.Method.opening, CallShape.consoleMethod] using hin)
    | error | info | warn =>
      rw [hshape] at he
      obtain rfl : e = ");".toList := he
      exact hplain r.shape.consoleMethod r.quote (by simpa [Console.Method.opening] using hin)
  have none_left := replacements_eq_zero_iff.2 settled
  exact ⟨settled, none_left, text_of_replacements_eq_zero none_left⟩

/-- Two calls, the quotes of the one in the message of the other: both are replaced, and nothing is
left. -/
theorem settled_two_calls :
    (ofBinding "logger".toList
          "console.error('say \"hi\"', error); console.log(\"it's\");".toList).replacements
        = 2
      ∧ (ofBinding "logger".toList (ofBinding "logger".toList
          "console.error('say \"hi\"', error); console.log(\"it's\");".toList).text).replacements
        = 0 := by
  refine ⟨by decide +kernel, (settled_text_of_no_shared_quote (by decide) (by decide) (by decide)
    (fun m q => ?_) (fun q w _ h => ?_)).2.1⟩
  · rw [← Text.contains_iff]
    cases m <;> cases q <;> decide
  · have head := (List.prefix_append (Console.Method.error.head ++ ['(', q.char, ','])
      (w ++ "error);".toList)).isInfix.trans (by simpa using h)
    rw [← Text.contains_iff] at head
    revert head
    cases q <;> decide

end Conversion

end LogMigration
