import LogMigration.Proofs.Joint

/-!
# What a rule puts in the place of a call

The template of a rule stands for the logger call with the message, literally, whatever dollars and
braces the logger's name and the message hold.  A rule puts this in the place of each call of its
shape, from left to right: each call as early as possible, the next one behind its end.

* `Rule.loggerCall` — the logger call with a message.
* `Rule.Replaced` — a text with its calls replaced, said without the rule's own division.
* `Rule.replaced_apply`, `Rule.Replaced.apply_eq` — a rule makes of a text this and nothing else.
* `template_and_replacement` — both together, for every rule.
-/

set_option autoImplicit false

namespace LogMigration

namespace Rule

/-- The logger call with a message. -/
def loggerCall (r : Rule) (message : Text) : Text :=
  r.binding ++ ".".toList ++ r.shape.loggerMethod ++ ['(', r.quote.char] ++ message
    ++ [r.quote.char] ++ r.shape.details ++ ");".toList

/-- Whether a text begins with a call of the rule. -/
def Opens (r : Rule) (s : Text) : Prop := ∃ source message rest, r.IsCall source message
  ∧ s = source ++ rest

/-- A text, what it is when its calls are replaced, and the number of calls.  The first call is the
one that begins earliest, and the next ones are looked for behind its end. -/
inductive Replaced (r : Rule) : Text → Text → Nat → Prop where
  | done {s : Text} (free : ∀ a b, s = a ++ b → ¬ r.Opens b) : Replaced r s s 0
  | call {front source message rest out : Text} {n : Nat} (found : r.IsCall source message)
      (first : ∀ a b, front = a ++ b → b ≠ [] → ¬ r.Opens (b ++ source ++ rest))
      (later : Replaced r rest out n) :
      Replaced r (front ++ source ++ rest) (front ++ r.loggerCall message ++ out) (n + 1)

variable {r : Rule}

theorem begins_iff_opens {s : Text} : r.begins s = true ↔ r.Opens s := by
  rw [begins, Option.isSome_iff_exists]
  constructor
  · rintro ⟨⟨source, message, rest⟩, h⟩
    exact ⟨source, message, rest, match?_eq_some_iff.1 h⟩
  · rintro ⟨source, message, rest, h⟩
    exact ⟨_, match?_eq_some_iff.2 h⟩

/-- A character at which no call begins is copied. -/
theorem Replaced.cons {c : Char} {s out : Text} {n : Nat} (h : r.Replaced s out n)
    (hc : ¬ r.Opens (c :: s)) : r.Replaced (c :: s) (c :: out) n := by
  cases h with
  | done free =>
    refine .done fun a b hab => ?_
    cases a with
    | nil => rwa [← List.nil_append b, ← hab]
    | cons d a => exact free a b (List.cons.inj hab).2
  | @call front source message rest out n found first later =>
    refine @call r (c :: front) source message rest out n found (fun a b hab hb => ?_) later
    cases a with
    | nil => rwa [← List.nil_append b, ← hab]
    | cons d a => exact first a b (List.cons.inj hab).2 hb

/-- What a rule makes of a text is the text with its calls replaced. -/
theorem replaced_apply (r : Rule) (s : Text) : r.Replaced s (r.apply s).1 (r.apply s).2 := by
  simp only [apply]
  fun_induction pieces r s with
  | case1 =>
    refine .done fun a b hab => ?_
    rw [(List.append_eq_nil_iff.1 hab.symm).2, ← begins_iff_opens,
      not_begins_of_quoteFree Text.quoteFree_nil]
    simp
  | case2 c cs source message rest h ih =>
    obtain ⟨found, hs⟩ := match?_eq_some_iff.1 h
    rw [hs, List.flatMap_cons, List.countP_cons, replacement_eq]
    exact @Replaced.call r [] source message rest _ _ found (fun a b hab hb => by simp_all) ih
  | case3 c cs h ih =>
    refine ih.cons fun hopens => ?_
    rw [← begins_iff_opens, begins, h] at hopens
    simp at hopens

/-- There is only one way of replacing the calls of a text. -/
theorem Replaced.apply_eq {s out : Text} {n : Nat} (h : r.Replaced s out n) :
    r.apply s = (out, n) := by
  induction h with
  | @done s free =>
    have none_occurs : (r.apply s).2 = 0 := by
      rw [snd_apply_eq_zero_iff, ← Bool.not_eq_true, occursIn_iff]
      rintro ⟨a, b, hs, hb⟩
      exact free a b hs (begins_iff_opens.1 hb)
    exact Prod.ext (fst_apply_of_snd_eq_zero none_occurs) none_occurs
  | @call front source message rest out n found first later ih =>
    have skipped := pieces_append_of_not_begins (r := r) (x := front) (t := source ++ rest)
      fun v hv ⟨a, ha⟩ => by
        rw [← Bool.not_eq_true, begins_iff_opens, ← List.append_assoc]
        exact first a v ha.symm hv
    obtain ⟨c, cs, hcs⟩ : ∃ c cs, source ++ rest = c :: cs := by
      obtain ⟨-, -, ending, -, rfl⟩ := found
      exact List.exists_cons_of_ne_nil (by simp)
    have matched : r.pieces (source ++ rest) = .call source message :: r.pieces rest := by
      rw [hcs]
      exact pieces_cons_of_match? (match?_eq_some_iff.2 ⟨found, hcs.symm⟩)
    rw [matched, ← List.append_assoc] at skipped
    rw [apply_of_call skipped, ih, List.append_assoc front]
    rfl

/-- The template of a rule stands for the logger call with the message, whatever the logger's name
and the message are.  What the rule makes of a text, and the number of calls that it reports, are
the text with its calls replaced by this and their number. -/
theorem template_and_replacement (r : Rule) :
    (∀ source message, Template.expand [source, message] r.template = r.loggerCall message)
      ∧ ∀ s out n, r.apply s = (out, n) ↔ r.Replaced s out n := by
  refine ⟨r.replacement_eq, fun s out n => ⟨fun h => ?_, Replaced.apply_eq⟩⟩
  have replaced := r.replaced_apply s
  rwa [h] at replaced

/-- A logger's name and a message that look like references to groups. -/
example : (Rule.mk .info .single "$1".toList).apply "f(); console.log('$0$\x7b1\x7d$$'); g();".toList
    = ("f(); $1.info('$0$\x7b1\x7d$$'); g();".toList, 1) := by decide +kernel

end Rule

end LogMigration
