import LogMigration.Call.Rule
import LogMigration.Tally

/-!
# Conversion of a text by the rules

The rules are applied one after the other, each to the text that the one before has left.

* `Conversion.run` — the text after a list of rules, with the number of calls that each replaced.
* `Conversion.ofBinding` — the conversion by all rules of a logger name.
-/

set_option autoImplicit false

namespace LogMigration

/-- A converted text, with the number of calls that each rule replaced. -/
structure Conversion where
  text : Text
  hits : List (Rule × Nat)
  deriving DecidableEq, Repr

namespace Conversion

def run : List Rule → Text → Conversion
  | [], s => ⟨s, []⟩
  | r :: rs, s =>
    let step := r.apply s
    let rest := run rs step.1
    ⟨rest.text, (r, step.2) :: rest.hits⟩

/-- Applies all rules of a logger name. -/
def ofBinding (binding : Text) (s : Text) : Conversion := run (Rule.all binding) s

def replacements (c : Conversion) : Nat := tally Prod.snd c.hits

end Conversion

end LogMigration
