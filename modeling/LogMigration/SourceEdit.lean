import LogMigration.Call.Conversion
import LogMigration.Require.Insertion

/-!
# Converting one source text

First the logger import is put in, then the rules are applied to the result.

* `SourceEdit.of` — the edit of a text.
-/

set_option autoImplicit false

namespace LogMigration

/-- What converting a text did. -/
structure SourceEdit where
  text : Text
  importOutcome : ImportOutcome
  /-- The calls that each rule replaced. -/
  hits : List (Rule × Nat)
  deriving DecidableEq, Repr

namespace SourceEdit

/-- The conversion of a file's text. -/
def of (cwd : Path) (target : LoggerTarget) (file : Path) (s : Text) : SourceEdit :=
  let imported := target.ensureImport cwd file s
  let converted := Conversion.ofBinding target.binding imported.1
  ⟨converted.text, imported.2, converted.hits⟩

def ruleHits (e : SourceEdit) : Nat := tally Prod.snd e.hits

end SourceEdit

end LogMigration
