import LogMigration.Require.Insertion
import LogMigration.Scan.Discovery

/-!
# What remains

After a run some statements may be left for a person to look at.

* `FileOutcome` — what happened to one converted file.
* `Remaining` — the files with statements left, and the number of files that could not be counted.
* `Remaining.projected`, `Remaining.ofDiscovery` — from the outcomes of a run, or from a new scan.
-/

set_option autoImplicit false

namespace LogMigration

/-- What happened to one candidate. -/
structure FileOutcome where
  path : Path
  importOutcome : ImportOutcome
  ruleHits : Nat
  /-- The lines with statements before the conversion. -/
  before : Nat
  /-- The lines with statements after the conversion. -/
  after : Nat
  /-- The count after the conversion failed, and `after` was taken from the new text. -/
  countFailed : Bool
  deriving DecidableEq, Repr

def FileOutcome.removed (o : FileOutcome) : Nat := o.before - o.after

/-- The statements that are left. -/
structure Remaining where
  files : List Candidate
  /-- The number of files whose count is not known. -/
  unknown : Nat
  deriving DecidableEq, Repr

namespace Remaining

def total (r : Remaining) : Nat := wrapped (tally Candidate.count r.files)

/-- Whether no statement is known to be left and every count is known. -/
def isClean (r : Remaining) : Bool := r.files.isEmpty && r.unknown = 0

/-- What a run that wrote nothing would leave. -/
def projected (outcomes : List FileOutcome) (unknown : Nat) : Remaining where
  files := outcomes.filterMap fun o => if 0 < o.after then some ⟨o.path, o.after⟩ else none
  unknown

/-- What a scan finds. -/
def ofDiscovery (d : Discovery) : Remaining where
  files := d.candidates
  unknown := d.failures.length

end Remaining

/-- Scans the tree again for statements that are left. -/
def rescan {σ : Type} (b : CountBackend σ) (c : Config) (s : Workspace × σ) :
    Except Failure (List Visit) × (Workspace × σ) :=
  match discover b c s with
  | (.error f, s) => (.error (f.during .finalScan), s)
  | (.ok visits, s) => (.ok visits, s)

end LogMigration
