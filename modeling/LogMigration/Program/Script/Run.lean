import LogMigration.Program.Script.Builtin
import LogMigration.Program.Script.Expansion
import LogMigration.Program.System

/-!
# Running scripts

A script runs in a workspace, which it may change, and leaves a status and what it printed.

* `Script.runSource` — the state after the commands of a text.
* `Script.runCommand` — the state after a command.
* `Script.run` — a script as a program.
-/

set_option autoImplicit false

namespace LogMigration

namespace Script

/-- Runs a command. -/
abbrev Step := Command → State → State

/-- The state after the commands of a text, which are read one by one. -/
def runTokens (step : Step) (last : Nat) : Nat → Tokens → State → State
  | 0, _, s => { s with ended := some none }
  | fuel + 1, ts, s =>
    if s.stopped then s
    else
      match nextCommand ts with
      | .error e =>
        let (line, message) := e.message last
        (s.complain line message.toList).ending 2
      | .ok none => s
      | .ok (some (c, rest)) => runTokens step last fuel rest (step c s)

/-- The state after the commands of a text. -/
def runSource (step : Step) (source : Text) (s : State) : State :=
  let ts := tokens source
  runTokens step (source.count '\n' + 1) (ts.length + 1) ts s

/-- What a command prints when it runs apart, and the state after it. -/
def capture (run : State → State) (s : State) : Bytes × State :=
  let n := s.buffers.length
  let inner := run { s with buffers := s.buffers ++ [[]], out := .buffer n }
  (inner.buffers.getD n [], s.rejoin { inner with buffers := inner.buffers.take n })

/-- Runs the commands of an expansion. -/
def captureSource (step : Step) (source : Text) (s : State) : Bytes × State :=
  capture (runSource step source) s

/-! ## Redirections -/

/-- The place that output to a file goes to.  A state in place of it is that after a failure. -/
def openOutput (line : Nat) (append : Bool) (file : Text) (s : State) :
    Except State (State × Sink) :=
  let failed (why : String) : Except State (State × Sink) :=
    .error ((s.complain line ("cannot create ".toList ++ file ++ ": ".toList ++ why.toList)).done 2)
  if file = "/dev/null".toList then .ok (s, .nothing)
  else if append && s.workspace.isPresent ⟨file⟩ && !s.workspace.isDirectory ⟨file⟩ then
    .ok (s, .file ⟨file⟩)
  else
    match s.workspace.write ⟨file⟩ [] with
    | .ok workspace => .ok ({ s with workspace }, .file ⟨file⟩)
    | .error (.isADirectory, _) => failed "Is a directory"
    | .error (.permissionDenied, _) => failed "Permission denied"
    | .error _ => failed "Directory nonexistent"

/-- The state with its input from a file. -/
def openInput (line : Nat) (file : Text) (s : State) : Except State State :=
  if file = "/dev/null".toList then .ok { s with input := [] }
  else
    match s.workspace.read ⟨file⟩ with
    | .ok input => .ok { s with input }
    | .error .isADirectory => .ok { s with input := [] }
    | .error _ =>
      .error ((s.complain line ("cannot open ".toList ++ file ++ ": No such file".toList)).done 2)

/-- The state with a descriptor that goes where another one goes. -/
def duplicate (line descriptor : Nat) (other : Text) (s : State) : Except State State :=
  let sink? : Option Sink :=
    if other = ['1'] then some s.out
    else if other = ['2'] then some s.err
    else if other = ['-'] then some .closed
    else none
  match sink? with
  | some sink =>
    .ok (if descriptor = 2 then { s with err := sink }
      else if descriptor = 1 then { s with out := sink } else s)
  | none =>
    if descriptor = 0 then .ok s
    else .error ((s.complain line (other ++ ": Bad file descriptor".toList)).done 2)

/-- The state with redirections in place, one after the other.  A state in place of it is that after
a failure. -/
def redirect (step : Step) (line : Nat) : List Redirection → State → Except State State
  | [], s => .ok s
  | r :: rs, s => do
    let s ← match r with
      | .here body => do
        let (s, t) ← expandText (captureSource step) line body s
        pure { s with input := Utf8.encode t }
      | .file descriptor direction target => do
        let (s, file) ← expandText (captureSource step) line target s
        match direction with
        | .input => if descriptor = 0 then openInput line file s else pure s
        | .duplicate => duplicate line descriptor file s
        | .output | .append => do
          let (s, sink) ← openOutput line (direction = .append) file s
          pure (if descriptor = 2 then { s with err := sink }
            else if descriptor = 1 then { s with out := sink } else s)
    redirect step line rs s

/-- Whether a redirection changes the input. -/
def Redirection.isInput : Redirection → Bool
  | .here _ => true
  | .file descriptor direction _ => descriptor = 0 && direction = .input

/-- The state after something that runs with redirections in place.  A redirection that fails may
end the script. -/
def runRedirected (step : Step) (line : Nat) (rs : List Redirection) (fatal : Bool)
    (body : State → State) (s : State) : State :=
  match redirect step line rs s with
  | .error t =>
    let t := { t with out := s.out, err := s.err, input := s.input }
    if fatal && !t.stopped then t.ending t.status else t
  | .ok t =>
    let u := body t
    { u with
      out := s.out
      err := s.err
      input := if rs.any Redirection.isInput then s.input else u.input }

/-! ## Simple commands -/

/-- The state after a program has run. -/
def afterProgram (s : State) (r : ProgramOutput × Workspace) : State :=
  let s := { s with workspace := { r.2 with cwd := s.workspace.cwd }, input := [] }
  ((s.send s.out r.1.stdout).send s.err r.1.stderr).done ((r.1.code.getD 137).toNat)

/-- The state after a script that is launched by its path. -/
def runScriptFile (step : Step) (path : Path) (source : Text) (arguments : List Text) (s : State) :
    State :=
  let inner := runSource step source
    { workspace := s.workspace, name := path.text, arguments, input := s.input, buffers := s.buffers
      out := s.out, err := s.err }
  s.rejoin (if inner.ended = some none then { inner with status := 137, ended := none } else inner)

/-- The state after a program that is launched by its path. -/
def launchFile (step : Step) (line : Nat) (path : Path) (shown : Text) (arguments : List Text)
    (s : State) : State :=
  match s.workspace.tree.entry s.workspace.cwd path with
  | .ok (.file content true) => runScriptFile step path (Utf8.decodeLossy content) arguments s
  | .ok _ => (s.complain line (shown ++ ": Permission denied".toList)).done 126
  | .error _ => (s.complain line (shown ++ ": not found".toList)).done 127

/-- The state after a program has been launched by its name; the caller is named in messages. -/
def launchProgram (step : Step) (line : Nat) (caller name : Text) (arguments : List Text)
    (s : State) : State :=
  let shown := caller ++ name
  if '/' ∈ name then
    match SystemProgram.ofName? name with
    | some p => afterProgram s (p.run s.workspace arguments s.input)
    | none => launchFile step line ⟨name⟩ shown arguments s
  else
    match s.workspace.programs with
    | .system =>
      match SystemProgram.ofName? name with
      | some p => afterProgram s (p.run s.workspace arguments s.input)
      | none => (s.complain line (shown ++ ": not found".toList)).done 127
    | .only directory => launchFile step line (directory.join name) shown arguments s

/-- The state with variables as they were in another state. -/
def restore (before : State) (names : List Text) (s : State) : State :=
  { s with assigned := (before.assigned.filter fun v => names.contains v.1)
      ++ s.assigned.filter fun v => !names.contains v.1 }

/-- The state after a function. -/
def callFunction (step : Step) (body : Command) (arguments : List Text) (s : State) : State :=
  let inner := step body { s with arguments, loops := 0, locals := some [] }
  { restore s (inner.locals.getD []) inner with
    arguments := s.arguments
    locals := s.locals
    loops := s.loops
    jump := if inner.jump = some .leaveFunction then none else inner.jump }

/-- Runs a command with its arguments; functions may be passed over. -/
def call (step : Step) (line : Nat) (functions : Bool) (name : Text) (arguments : List Text)
    (s : State) : State :=
  let function? := if functions then s.functions.find? fun f => f.1 = name else none
  match function? with
  | some (_, body) => callFunction step body arguments s
  | none =>
    if name = "eval".toList then
      runSource step (Text.joinWith [' '] arguments) { s with status := 0 }
    else if name = ['.'] then
      match arguments with
      | [] => s.done 2
      | file :: _ =>
        match s.workspace.read ⟨file⟩ with
        | .ok content => runSource step (Utf8.decodeLossy content) s
        | .error _ =>
          (s.complain line (".: cannot open ".toList ++ file ++ ": No such file".toList)).ending 2
    else
      match builtin? line name arguments s with
      | some after => after
      | none => launchProgram step line [] name arguments s

/-- The state after the command `command` or `exec`, or after any other command. -/
def callWord (step : Step) (line : Nat) (name : Text) (arguments : List Text) (s : State) : State :=
  if name = "command".toList then
    match arguments with
    | [] => s.done 0
    | inner :: arguments => call step line false inner arguments s
  else if name = "exec".toList then
    match arguments with
    | [] => s.done 0
    | inner :: arguments =>
      let after := launchProgram step line "exec: ".toList inner arguments s
      if after.ended.isSome then after else after.ending after.status
  else call step line true name arguments s

/-- Sets variables in order. -/
def assignAll (step : Step) (line : Nat) : List (Text × Word) → State → Except State State
  | [], s => .ok s
  | (name, w) :: rest, s => do
    let (s, t) ← expandText (captureSource step) line w s
    assignAll step line rest (s.assign name t)

/-- Whether a word runs commands. -/
def runsCommands (w : Word) : Bool :=
  w.any fun
    | .command _ _ => true
    | _ => false

/-- The state after a simple command. -/
def runSimple (step : Step) (c : Simple) (s : State) : State :=
  match expandFields (captureSource step) c.line c.words s with
  | .error s => s
  | .ok (s, []) =>
    runRedirected step c.line c.redirections false
      (fun t =>
        match assignAll step c.line c.assignments t with
        | .error t => t
        | .ok t => if c.assignments.any fun a => runsCommands a.2 then t else t.done 0)
      s
  | .ok (s, name :: arguments) =>
    let body (t : State) : State :=
      match assignAll step c.line c.assignments t with
      | .error t => t
      | .ok assigned =>
        let after := callWord step c.line name arguments assigned
        if isSpecialCommand name then after else restore t (c.assignments.map Prod.fst) after
    if name = "exec".toList && arguments = [] then
      match redirect step c.line c.redirections s with
      | .error t => t.ending 2
      | .ok t => t.done 0
    else runRedirected step c.line c.redirections (isSpecialCommand name) body s

/-! ## Commands -/

/-- The state after a command whose failure is expected. -/
def runTested (step : Step) (c : Command) (s : State) : State :=
  { step c { s with tested := true } with tested := s.tested }

/-- The state after a command whose failure may end the script. -/
def checked (s : State) : State :=
  if s.stopsOnFailure && !s.tested && s.status ≠ 0 && !s.stopped then s.ending s.status else s

/-- What a jump does at the end of the body of a loop: the state, and whether the loop goes on. -/
def land (s : State) : State × Bool :=
  match s.jump with
  | none => (s, s.ended.isNone)
  | some .leaveFunction => (s, false)
  | some (.leave n) => ({ s with jump := if n ≤ 1 then none else some (.leave (n - 1)) }, false)
  | some (.next n) =>
    if n ≤ 1 then ({ s with jump := none }, true)
    else ({ s with jump := some (.next (n - 1)) }, false)

/-- The most times that a loop goes round. -/
def loopLimit : Nat := 100000

/-- The state after a loop, given the status of the last time round. -/
def runLoop (step : Step) (test body : Command) (whileFailing : Bool) : Nat → Nat → State → State
  | 0, _, s => { s with ended := some none }
  | fuel + 1, status, s =>
    let tested := runTested step test s
    if tested.stopped then tested
    else if decide (tested.status = 0) = whileFailing then tested.done status
    else
      let (after, goesOn) := land (step body tested)
      if goesOn then runLoop step test body whileFailing fuel after.status after else after

/-- The state after a body has run for each of some values. -/
def runEach (step : Step) (name : Text) (body : Command) : List Text → State → State
  | [], s => s
  | v :: vs, s =>
    let (after, goesOn) := land (step body (s.assign name v))
    if goesOn then runEach step name body vs after else after

/-- Whether a text fits one of some words as patterns; a state in place of it is that of a script
which cannot go on. -/
def fitsAny (step : Step) (t : Text) : List Word → State → Except State (State × Bool)
  | [], s => .ok (s, false)
  | w :: ws, s => do
    let (s, f) ← expandField (captureSource step) 0 w s
    if Wildcard.fits f.pattern t then return (s, true) else fitsAny step t ws s

/-- The state after a command.  The fuel bounds the depth of commands in commands. -/
def runCommand : Nat → Command → State → State
  | 0, _, s => { s with ended := some none }
  | fuel + 1, c, s =>
    let step := runCommand fuel
    if s.stopped then s
    else
      match c with
      | .skip => s
      | .simple c => checked (runSimple step c s)
      | .seq a b => step b (step a s)
      | .both a b =>
        let first := runTested step a s
        if first.stopped || first.status ≠ 0 then first else step b first
      | .either a b =>
        let first := runTested step a s
        if first.stopped || first.status = 0 then first else step b first
      | .negated c =>
        let inner := runTested step c s
        if inner.stopped then inner else inner.done (if inner.status = 0 then 1 else 0)
      | .pipe a b =>
        let (bytes, middle) := capture (step a) s
        let last := step b { middle with input := bytes, ended := none }
        checked { middle.rejoin last with input := s.input }
      | .conditional test yes no =>
        let tested := runTested step test s
        if tested.stopped then tested
        else if tested.status = 0 then step yes tested
        else if no = .skip then tested.done 0
        else step no tested
      | .choice subject patterns yes no =>
        match expandText (captureSource step) 0 subject s with
        | .error t => t
        | .ok (s, t) =>
          match fitsAny step t patterns s with
          | .error u => u
          | .ok (s, true) => if yes = .skip then s.done 0 else step yes s
          | .ok (s, false) => if no = .skip then s.done 0 else step no s
      | .loop test body whileFailing =>
        { runLoop step test body whileFailing loopLimit 0 { s with loops := s.loops + 1 } with
          loops := s.loops }
      | .each name words body =>
        let values : Except State (State × List Text) := match words with
          | none => .ok (s, s.arguments)
          | some ws => expandFields (captureSource step) 0 ws s
        match values with
        | .error t => t
        | .ok (s, values) =>
          { runEach step name body values { s.done 0 with loops := s.loops + 1 } with
            loops := s.loops }
      | .apart c => checked (s.rejoin (step c { s with loops := 0 }))
      | .background c => (s.rejoin (step c { s with loops := 0, input := [] })).done 0
      | .define name body => ({ s with functions := (name, body) :: s.functions }).done 0
      | .redirected line c rs => runRedirected step line rs false (step c) s

/-- The depth of commands in commands that a script can have. -/
def depthLimit : Nat := 10000

/-- The state after the commands that were set aside for the end. -/
def runAtExit (s : State) : State :=
  if s.atExit = [] || s.ended = some none then s
  else
    let status := match s.ended with
      | some (some n) => n
      | _ => s.status
    let last := runSource (runCommand depthLimit) s.atExit
      { s with ended := none, jump := none, atExit := [], status }
    if last.ended.isSome then last else last.done status

/-- Runs a script, which may change the workspace. -/
def run (w : Workspace) (name options : Text) (arguments : List Text) (source : Text) :
    ProgramOutput × Workspace :=
  let start : State :=
    { workspace := w
      name
      arguments
      stopsOnFailure := options.head? = some '-' && decide ('e' ∈ options) }
  let s := runAtExit (runSource (runCommand depthLimit) source start)
  ({ code := match s.ended with
      | some none => none
      | some (some n) => some n
      | none => some s.status
     stdout := s.buffers.getD 0 []
     stderr := s.buffers.getD 1 [] },
    { s.workspace with cwd := w.cwd })

end Script

end LogMigration
