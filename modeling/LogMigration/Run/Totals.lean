import LogMigration.Run.Remaining

/-!
# Totals and summary of a run

* `RunTotals.record` — the totals with one more outcome.
* `Summary.render` — the text that is printed at the end of a run.
-/

set_option autoImplicit false

namespace LogMigration

/-- The figures of a run. -/
structure RunTotals where
  filesProcessed : Nat := 0
  importsAdded : Nat := 0
  /-- The sum of the lines that no longer hold a statement. -/
  replacements : Nat := 0
  ruleHits : Nat := 0
  queryFailures : Nat := 0
  fileErrors : Nat := 0
  deriving DecidableEq, Repr

def ImportOutcome.isInserted : ImportOutcome → Bool
  | .inserted _ => true
  | _ => false

namespace RunTotals

def record (t : RunTotals) (o : FileOutcome) : RunTotals where
  filesProcessed := t.filesProcessed + 1
  importsAdded := t.importsAdded + (if o.importOutcome.isInserted then 1 else 0)
  replacements := wrapped (t.replacements + o.removed)
  ruleHits := wrapped (t.ruleHits + o.ruleHits)
  queryFailures := wrapped (t.queryFailures + (if o.countFailed then 1 else 0))
  fileErrors := t.fileErrors

def recordAll (t : RunTotals) (os : List FileOutcome) : RunTotals := os.foldl record t

end RunTotals

/-- What is summed up at the end of a run. -/
structure Summary where
  totals : RunTotals
  remaining : Remaining
  dryRun : Bool
  deriving DecidableEq, Repr

namespace Summary

def lines (s : Summary) : List String :=
  let t := s.totals
  let optional (condition : Bool) (line : String) : List String := if condition then [line] else []
  [if s.dryRun then "Dry run complete (no files written)" else "Complete!",
    "   Files processed: " ++ toString t.filesProcessed,
    "   Logger imports added: " ++ toString t.importsAdded,
    "   Total replacements: " ++ toString t.replacements]
  ++ optional (t.ruleHits ≠ t.replacements) ("   Rule substitutions: " ++ toString t.ruleHits)
  ++ optional (0 < t.queryFailures) ("   Count queries failed: " ++ toString t.queryFailures)
  ++ optional (0 < t.fileErrors) ("   Files skipped on error: " ++ toString t.fileErrors)
  ++ [""]
  ++ (if s.remaining.files.isEmpty then
      [if t.filesProcessed = 0 then "No console statements found!"
        else "All console statements replaced!"]
    else
      ["Remaining console statements (manual review):",
        "   Files: " ++ toString s.remaining.files.length,
        "   Total: " ++ toString s.remaining.total]
      ++ s.remaining.files.map fun c =>
        "   - " ++ c.path.toString ++ " (" ++ toString c.count ++ ")")
  ++ optional (0 < s.remaining.unknown)
    ("   " ++ toString s.remaining.unknown ++ " files could not be counted; see warnings above")

def render (s : Summary) : String := String.join (s.lines.map (· ++ "\n"))

end Summary

end LogMigration
