import LogMigration.Run.Tree

/-!
# The log of a run

What a run logs is read off its record, in the order in which it happened.

* `FileRun.events` — what is logged about one candidate.
* `RunRecord.events` — what is logged about a run, after the first line.
-/

set_option autoImplicit false

namespace LogMigration

/-- An event of a run without named values. -/
def Event.ofRun (level : Level) (message : String) : Event := ⟨level, .run, message, []⟩

def Event.runStarts (backend : String) (root : Path) : Event where
  level := .info
  origin := .run
  message := "finding files with console statements"
  fields := [("backend", String.ofList (Text.quoted backend.toList)), ("root", root.toString)]

/-- A rule as the values of an event. -/
def Rule.fields (r : Rule) : List (String × String) :=
  [("shape", r.shape.name), ("quote", r.quote.name)]

/-- What is logged about an edit: the file's place, the rules that found something, the import. -/
def SourceEdit.events (cwd : Path) (target : LoggerTarget) (file : Path) (e : SourceEdit) :
    List Event :=
  (if e.importOutcome.isInserted && !target.covers cwd file then
    [⟨.debug, .imports, file.toString ++ " is outside tree root " ++ target.treeRoot.toString
      ++ ", counting from its own path", []⟩]
  else [])
  ++ (e.hits.filterMap fun (r, n) =>
    if n = 0 then none
    else some ⟨.trace, .rules, "rule applied", r.fields ++ [("hits", toString n)]⟩)
  ++ match e.importOutcome with
    | .inserted spec => [.ofRun .info ("  added logger import (" ++ String.ofList spec ++ ")")]
    | .noAnchor => [.ofRun .debug "  no require declaration to anchor the logger import"]
    | .alreadyPresent => []

namespace FileRun

/-- What is logged about one candidate. -/
def events (cwd : Path) (target : LoggerTarget) : FileRun → List Event
  | .unreadable _ failure => [.ofRun .error failure.summary]
  | .unwritable candidate edit failure =>
    edit.events cwd target candidate.path ++ [.ofRun .error failure.summary]
  | .converted candidate edit recount =>
    let left := edit.left recount
    edit.events cwd target candidate.path
    ++ (match recount with
      | some (.error error) =>
        [.ofRun .warn
          ("count query failed for " ++ candidate.path.toString ++ ": " ++ error.message)]
      | _ => [])
    ++ (if edit.ruleHits = 0 then []
      else
        [.ofRun .info ("  replaced " ++ toString edit.ruleHits ++ " console statements ("
          ++ toString left ++ " remaining)")])
    ++ (if left = 0 then []
      else
        [.ofRun .warn ("  manual review needed for " ++ toString left
          ++ " remaining statements in " ++ candidate.path.toString)])

/-- The event with which a candidate begins. -/
def begins (number total : Nat) (f : FileRun) : Event :=
  .ofRun .info ("[" ++ toString number ++ "/" ++ toString total ++ "] processing "
    ++ f.path.toString)

end FileRun

namespace RunRecord

/-- What is logged about the number of candidates. -/
def found : Nat → Event
  | 0 => .ofRun .info "no console statements found"
  | n => .ofRun .info ("found " ++ toString n ++ " files with console statements")

/-- What is logged about the final scan. -/
def rescanEvents : Option (Except Failure (List Visit)) → List Event
  | none => []
  | some (.error failure) => [.ofRun .warn failure.summary]
  | some (.ok visits) =>
    let discovery := Discovery.ofVisits visits
    visits.filterMap Visit.event?
    ++ [⟨.debug, .finalScan, "final scan",
      [("files", toString discovery.candidates.length), ("total", toString discovery.total)]⟩]

/-- What is logged about a run, from the scan to the final scan. -/
def events (cwd : Path) (target : LoggerTarget) (r : RunRecord) : List Event :=
  let total := r.discovery.candidates.length
  r.visits.filterMap Visit.event?
  ++ [found total]
  ++ ((Rule.all target.binding).map fun rule =>
    ⟨.trace, .run, "rule " ++ String.ofList rule.pattern, rule.fields⟩)
  ++ (r.files.zipIdx.flatMap fun (f, i) => f.begins (i + 1) total :: f.events cwd target)
  ++ rescanEvents r.rescanned

end RunRecord

end LogMigration
