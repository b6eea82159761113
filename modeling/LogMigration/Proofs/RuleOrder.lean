import LogMigration.Proofs.MarkedRun

/-!
# The order of the rules

The rules of a logger name are applied one after the other, but no rule makes or unmakes a call of
another one: every rule converts the parts that are marked with it, whatever has been converted
before.

* `run_of_perm` — any order of the rules gives the same text, the same number of replacements in all
  and the same number of hits for each rule.
-/

set_option autoImplicit false

namespace LogMigration

namespace Conversion

theorem lookup_map_self {f : Rule → Nat} {rs : List Rule} {r : Rule} (h : r ∈ rs) :
    (rs.map fun x => (x, f x)).lookup r = some (f r) := by
  induction rs with
  | nil => simp at h
  | cons x rs ih =>
    rw [List.map_cons, List.lookup_cons]
    by_cases hx : r = x
    · simp [hx]
    · have other : (r == x) = false := by simpa using hx
      simp only [other]
      exact ih ((List.mem_cons.1 h).resolve_left hx)

/-- The order of the rules makes no difference: not to the text, not to the number of replacements,
and not to the hits of any rule. -/
theorem run_of_perm {binding : Text} (hb : Config.isIdentifier binding = true) {rs : List Rule}
    (hp : rs.Perm (Rule.all binding)) (s : Text) :
    (run rs s).text = (ofBinding binding s).text
      ∧ (run rs s).replacements = (ofBinding binding s).replacements
      ∧ ∀ r ∈ Rule.all binding, ∃ n, (run rs s).hits.lookup r = some n
        ∧ (ofBinding binding s).hits.lookup r = some n := by
  have word := Text.isWord_of_isIdentifier hb
  have ordered := run_eq word (fun r hr => Rule.mem_all_iff.1 (hp.mem_iff.1 hr))
    (hp.nodup_iff.2 (Rule.nodup_all binding)) s
  rw [ordered, ofBinding_eq word]
  refine ⟨?_, ?_, fun r hr => ⟨Mark.hits r (marks s), ?_, lookup_map_self hr⟩⟩
  · rw [Mark.textOf_congr fun r => hp.mem_iff]
  · exact tally_perm Prod.snd (hp.map _)
  · exact lookup_map_self (hp.mem_iff.2 hr)

/-- The rules backwards, on a call whose message ends in the head of another call. -/
theorem run_reverse_nested_call :
    Config.isIdentifier "logger".toList = true
      ∧ (Rule.all "logger".toList).reverse.Perm (Rule.all "logger".toList)
      ∧ (run (Rule.all "logger".toList).reverse
          "console.error('console.log(', error);');".toList).text
        = "logger.error('logger.info(', \x7b error: error.message, stack: error.stack \x7d);');".toList :=
  ⟨by decide, List.reverse_perm _,
    (run_of_perm (by decide) (List.reverse_perm _) _).1.trans (by decide +kernel)⟩

end Conversion

end LogMigration
