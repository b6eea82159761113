import LogMigration.Config.Basic
import LogMigration.Log.Event
import LogMigration.Scan.Backend
import LogMigration.Tally

/-!
# Discovery

Discovery lists the files below the root, leaves out the excluded ones, and asks for the count of
each of the others.  A failed count is kept apart from a count of zero.

* `Config.excludes` — whether a file is left out.
* `Visit` — what happened to one listed file.
* `discover` — the visits of a scan, in the order of the list.
* `Discovery.ofVisits` — what a scan found.
-/

set_option autoImplicit false

namespace LogMigration

/-- A file with console statements. -/
structure Candidate where
  path : Path
  count : Nat
  deriving DecidableEq, Repr

/-- A file whose statements could not be counted. -/
structure QueryFailure where
  path : Path
  error : QueryError
  deriving DecidableEq, Repr

/-- What happened to one listed file. -/
inductive Visit where
  | excluded (path : Path)
  | counted (path : Path) (answer : Except QueryError Nat)

/-- Whether the file is left out: some pattern fits its path below the root. -/
def Config.excludes (c : Config) (p : Path) : Bool :=
  c.exclude.any fun g => g.fits ((p.relativeTo? c.root).getD p).text

/-- Visits listed files in order. -/
def visitAll {σ : Type} (b : CountBackend σ) (c : Config) :
    List Path → Workspace × σ → List Visit × (Workspace × σ)
  | [], s => ([], s)
  | p :: ps, s =>
    if c.excludes p then
      let rest := visitAll b c ps s
      (.excluded p :: rest.1, rest.2)
    else
      let answer := b.count p s
      let rest := visitAll b c ps answer.2
      (.counted p answer.1 :: rest.1, rest.2)

/-- Lists the files below the root and visits them.  If they cannot be listed, nothing is counted. -/
def discover {σ : Type} (b : CountBackend σ) (c : Config) (s : Workspace × σ) :
    Except Failure (List Visit) × (Workspace × σ) :=
  match b.enumerate c.root c.extension s with
  | (.error f, s) => (.error (f.during (.enumerate c.extension c.root)), s)
  | (.ok paths, s) =>
    let visits := visitAll b c paths s
    (.ok visits.1, visits.2)

/-- What a scan found. -/
structure Discovery where
  /-- The number of files that were counted or should have been. -/
  scanned : Nat
  candidates : List Candidate
  failures : List QueryFailure
  deriving DecidableEq, Repr

namespace Visit

/-- Whether the file was not left out. -/
def isCounted : Visit → Bool
  | .excluded _ => false
  | .counted _ _ => true

/-- The file as a candidate, if it has statements. -/
def candidate? : Visit → Option Candidate
  | .counted path (.ok (n + 1)) => some ⟨path, n + 1⟩
  | _ => none

/-- The file as a failure, if its count failed. -/
def failure? : Visit → Option QueryFailure
  | .counted path (.error error) => some ⟨path, error⟩
  | _ => none

/-- What is logged about a visit. -/
def event? : Visit → Option Event
  | .excluded path => some ⟨.trace, .scan, "excluded " ++ path.toString, []⟩
  | .counted _ (.ok 0) => none
  | .counted path (.ok n) =>
    some ⟨.debug, .scan, "candidate " ++ path.toString, [("count", toString n)]⟩
  | .counted path (.error error) =>
    some ⟨.warn, .scan, "count query failed for " ++ path.toString ++ ": " ++ error.message, []⟩

end Visit

namespace Discovery

def ofVisits (vs : List Visit) : Discovery where
  scanned := vs.countP Visit.isCounted
  candidates := vs.filterMap Visit.candidate?
  failures := vs.filterMap Visit.failure?

def total (d : Discovery) : Nat := wrapped (tally Candidate.count d.candidates)

end Discovery

end LogMigration
