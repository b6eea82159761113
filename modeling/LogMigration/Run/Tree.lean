import LogMigration.Run.File
import LogMigration.Scan.Discovery

/-!
# Converting a tree

A run scans the tree, converts every candidate and scans again.  What it did is kept in a record,
and all figures are functions of the record.

* `RunRecord` — what a run did.
* `RunRecord.outcomes`, `RunRecord.totals`, `RunRecord.remaining` — its figures.
* `convertTree` — a run.
-/

set_option autoImplicit false

namespace LogMigration

/-- What a run did: the visits of its scan, the conversions, and the visits of the final scan, which
a rehearsal does without. -/
structure RunRecord where
  visits : List Visit
  files : List FileRun
  rescanned : Option (Except Failure (List Visit))

namespace RunRecord

/-- What the first scan found. -/
def discovery (r : RunRecord) : Discovery := .ofVisits r.visits

def outcomes (r : RunRecord) : List FileOutcome := r.files.filterMap FileRun.outcome?

/-- The failures of the others. -/
def failures (r : RunRecord) : List Failure := r.files.filterMap FileRun.failure?

def totals (r : RunRecord) : RunTotals :=
  RunTotals.recordAll
    { queryFailures := r.discovery.failures.length, fileErrors := r.failures.length } r.outcomes

/-- What remains: projected in a rehearsal, found by the final scan otherwise.  If that scan fails,
the converted files count as unknown. -/
def remaining (r : RunRecord) : Remaining :=
  match r.rescanned with
  | none => .projected r.outcomes r.discovery.failures.length
  | some (.ok visits) => .ofDiscovery (.ofVisits visits)
  | some (.error _) => ⟨[], r.outcomes.length⟩

end RunRecord

/-- Scans the tree, converts the candidates and scans again.  A file that fails does not end the
run; a first scan that fails does. -/
def convertTree {σ : Type} (b : CountBackend σ) (c : Config) (dryRun : Bool) (s : Workspace × σ) :
    Except Failure RunRecord × (Workspace × σ) :=
  match discover b c s with
  | (.error f, s) => (.error f, s)
  | (.ok visits, s) =>
    let files := runFiles b c dryRun (Discovery.ofVisits visits).candidates s
    if dryRun then (.ok ⟨visits, files.1, none⟩, files.2)
    else
      let again := rescan b c files.2
      (.ok ⟨visits, files.1, some again.1⟩, again.2)

end LogMigration
