import LogMigration.Run.Totals
import LogMigration.SourceEdit

/-!
# Converting one file

A candidate is read, converted and, unless the run is only a rehearsal, written back if its text has
changed and counted again.

* `FileRun` — what happened to one candidate.
* `FileRun.outcome?` — its outcome, if nothing went wrong.
* `runFile` — converts one candidate.
-/

set_option autoImplicit false

namespace LogMigration

/-- The lines that hold a statement after an edit: those that were counted again, or else those of
the new text. -/
def SourceEdit.left (edit : SourceEdit) : Option (Except QueryError Nat) → Nat
  | some (.ok n) => n
  | _ => Console.count edit.text

/-- What happened to one candidate. -/
inductive FileRun where
  /-- Its text could not be read. -/
  | unreadable (candidate : Candidate) (failure : Failure)
  /-- Its new text could not be written. -/
  | unwritable (candidate : Candidate) (edit : SourceEdit) (failure : Failure)
  /-- It was converted; in a real run it was counted again. -/
  | converted (candidate : Candidate) (edit : SourceEdit) (recount : Option (Except QueryError Nat))

namespace FileRun

def path : FileRun → Path
  | .unreadable candidate _ | .unwritable candidate _ _ | .converted candidate _ _ => candidate.path

/-- The outcome of a conversion.  A count that failed is taken from the new text. -/
def outcome? : FileRun → Option FileOutcome
  | .unreadable _ _ | .unwritable _ _ _ => none
  | .converted candidate edit recount =>
    some {
      path := candidate.path
      importOutcome := edit.importOutcome
      ruleHits := edit.ruleHits
      before := candidate.count
      after := edit.left recount
      countFailed := match recount with
        | some (.error _) => true
        | _ => false }

/-- The failure that kept a candidate from being converted. -/
def failure? : FileRun → Option Failure
  | .unreadable _ failure | .unwritable _ _ failure => some failure
  | .converted _ _ _ => none

end FileRun

/-- Converts one candidate. -/
def runFile {σ : Type} (b : CountBackend σ) (c : Config) (dryRun : Bool) (candidate : Candidate)
    (s : Workspace × σ) : FileRun × (Workspace × σ) :=
  let path := candidate.path
  match s.1.readText path with
  | .error e => (.unreadable candidate (Failure.during (.readFile path) (.of (.io e))), s)
  | .ok text =>
    let edit := SourceEdit.of s.1.directory c.logger path text
    if dryRun then (.converted candidate edit none, s)
    else
      let written := if edit.text = text then .ok s.1 else s.1.write path (Utf8.encode edit.text)
      match written with
      | .error (e, w) =>
        (.unwritable candidate edit (Failure.during (.writeFile path) (.of (.io e))), (w, s.2))
      | .ok w =>
        let recount := b.count path (w, s.2)
        (.converted candidate edit (some recount.1), recount.2)

def runFiles {σ : Type} (b : CountBackend σ) (c : Config) (dryRun : Bool) :
    List Candidate → Workspace × σ → List FileRun × (Workspace × σ)
  | [], s => ([], s)
  | candidate :: rest, s =>
    let first := runFile b c dryRun candidate s
    let others := runFiles b c dryRun rest first.2
    (first.1 :: others.1, others.2)

end LogMigration
