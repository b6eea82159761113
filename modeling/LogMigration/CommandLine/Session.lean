import LogMigration.CommandLine.Diagnosis
import LogMigration.CommandLine.Request
import LogMigration.Log.Filter
import LogMigration.Run.Log
import LogMigration.Scan.Listing
import LogMigration.Scan.System

/-!
# Sessions

A session takes a request, acts on the workspace and replies.

* `Reply` — what was printed and logged, how it ended, and the workspace afterwards.
* `Request.perform` — the reply to a request.
* `Session.ofArguments` — what a process with some arguments leaves behind.
-/

set_option autoImplicit false

namespace LogMigration

/-- The reply to a request. -/
structure Reply where
  stdout : String := ""
  events : List Event := []
  failure : Option Failure := none
  workspace : Workspace
  deriving DecidableEq, Repr

namespace Reply

/-- Lines of text, each with its end. -/
def print (lines : List String) : String := String.join (lines.map (· ++ "\n"))

/-- The reply of a diagnosis.  What was found before a failure is printed. -/
def doctor (w : Workspace) (config : Option Path) (overrides : Overrides) : Reply :=
  let programs := print (Diagnosis.programs w)
  match Config.resolve w config overrides with
  | (.error f, events) => { stdout := programs, events, failure := some f, workspace := w }
  | (.ok c, events) =>
    let missing := Diagnosis.missing w c
    { stdout := programs ++ print (Diagnosis.configuration w c)
      events
      failure := if missing.isEmpty then none else some (.of (.missingPrograms missing))
      workspace := w }

def check (w : Workspace) (config : Option Path) (overrides : Overrides) : Reply :=
  match Config.resolve w config overrides with
  | (.error f, events) => { events, failure := some f, workspace := w }
  | (.ok c, events) =>
    match discover c.countBackend c (w, ()) with
    | (.error f, s) => { events, failure := some f, workspace := s.1 }
    | (.ok visits, s) =>
      { stdout := (Discovery.ofVisits visits).render
        events := events ++ visits.filterMap Visit.event?
        workspace := s.1 }

def run (dryRun : Bool) (w : Workspace) (config : Option Path) (overrides : Overrides) : Reply :=
  match Config.resolve w config overrides with
  | (.error f, events) => { events, failure := some f, workspace := w }
  | (.ok c, events) =>
    let starts := Event.runStarts c.countBackend.name c.root
    match convertTree c.countBackend c dryRun (w, ()) with
    | (.error f, s) => { events := events ++ [starts], failure := some f, workspace := s.1 }
    | (.ok record, s) =>
      { stdout := Summary.render ⟨record.totals, record.remaining, dryRun⟩
        events := events ++ starts :: record.events w.directory c.logger
        workspace := s.1 }

end Reply

/-- The reply to a request. -/
def Request.perform (r : Request) (w : Workspace) : Reply :=
  match r.action with
  | .doctor => Reply.doctor w r.config r.overrides
  | .run dryRun => Reply.run dryRun w r.config r.overrides
  | .check => Reply.check w r.config r.overrides

/-- What a process leaves behind. -/
structure Session where
  code : Nat
  stdout : String
  stderr : String
  workspace : Workspace
  deriving DecidableEq, Repr

namespace Session

def version : String := "console-to-logger 0.1.0\n"

def usage : String :=
  Reply.print
    ["Usage: console-to-logger [-v]... <COMMAND> [OPTIONS]",
      "",
      "Commands:",
      "  doctor  Environment diagnostics and effective configuration",
      "  run     Insert logger imports, convert console calls, report what remains",
      "  check   Only count console statements",
      "",
      "Options of the commands:",
      "  --config <FILE>      Path to console-to-logger.toml",
      "  --root <DIR>         Directory to scan",
      "  --backend <NAME>     builtin | grep",
      "  --tree-root <DIR>    Directory the logger module path is relative to",
      "  --dry-run            Only for run: compute the conversion without writing any file"]

/-- The session in which the arguments ask for no command. -/
def ofUsageError (w : Workspace) (e : UsageError) : Session :=
  let text := if e = .versionRequested then version else usage
  if e.isInquiry then { code := 0, stdout := text, stderr := "", workspace := w }
  else { code := 2, stdout := "", stderr := text, workspace := w }

/-- The session of a request: remarks about the filter, the log that it lets through, and then the
failure. -/
def ofReply (remarks : String) (filter : LogFilter) (r : Reply) : Session :=
  let log := remarks ++ filter.render r.events
  match r.failure with
  | none => { code := 0, stdout := r.stdout, stderr := log, workspace := r.workspace }
  | some f =>
    { code := 1
      stdout := r.stdout
      stderr := log ++ "Error: " ++ f.report ++ "\n"
      workspace := r.workspace }

/-- The session of a process with some arguments.  A filter that the environment spells takes
precedence over the verbosity. -/
def ofArguments (w : Workspace) (arguments : List Text) (filter : Option Text) : Session :=
  match Request.parse arguments with
  | .error e => ofUsageError w e
  | .ok r =>
    match filter with
    | some s => ofReply (LogFilter.remarks s) (LogFilter.parse s) (r.perform w)
    | none => ofReply "" (LogFilter.ofVerbosity r.verbosity) (r.perform w)

end Session

end LogMigration
