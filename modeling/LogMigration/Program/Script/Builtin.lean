import LogMigration.Program.Script.Format
import LogMigration.Program.Script.State

/-!
# Commands that a script knows by itself

* `Script.condition` — the value of a test.
* `Script.readInto` — a line of input divided among variables.
* `Script.builtin?` — the state after a command, if the script knows it.
-/

set_option autoImplicit false

namespace LogMigration

namespace Script

/-! ## Tests -/

/-- The integer that a text spells. -/
def integer? (s : Text) : Option Int :=
  let unsigned (ds : Text) : Option Int :=
    if ds ≠ [] && ds.all Char.isDigit then some (Arithmetic.number ds) else none
  match Text.trim s with
  | '-' :: ds => (unsigned ds).map (- ·)
  | '+' :: ds => unsigned ds
  | ds => unsigned ds

/-- A comparison of integers by its name. -/
def comparison? (operator : Text) : Option (Int → Int → Bool) :=
  let is (s : String) : Bool := operator = s.toList
  if is "-eq" then some fun a b => a == b
  else if is "-ne" then some fun a b => a != b
  else if is "-gt" then some fun a b => decide (b < a)
  else if is "-ge" then some fun a b => decide (b ≤ a)
  else if is "-lt" then some fun a b => decide (a < b)
  else if is "-le" then some fun a b => decide (a ≤ b)
  else none

/-- A comparison of texts by its name. -/
def textComparison? (operator : Text) : Option (Text → Text → Bool) :=
  let is (s : String) : Bool := operator = s.toList
  if is "=" then some fun a b => decide (a = b)
  else if is "!=" then some fun a b => decide (a ≠ b)
  else if is "<" then some fun a b => decide (a < b)
  else if is ">" then some fun a b => decide (b < a)
  else none

/-- A test of one text by its name. -/
def unaryTest? (w : Workspace) (operator : Text) : Option (Text → Bool) :=
  let is (s : String) : Bool := operator = s.toList
  let entry (p : Entry → Bool) (a : Text) : Bool :=
    match w.tree.entry w.cwd ⟨a⟩ with
    | .ok e => p e
    | .error _ => false
  if is "-n" then some fun a => a ≠ []
  else if is "-z" then some fun a => a = []
  else if is "-e" || is "-r" || is "-w" then some fun a => w.isPresent ⟨a⟩
  else if is "-d" then some fun a => w.isDirectory ⟨a⟩
  else if is "-f" then some (entry fun | .file _ _ => true | _ => false)
  else if is "-s" then some (entry fun | .file content _ => !content.isEmpty | _ => true)
  else if is "-x" then some (entry fun | .file _ executable => executable | _ => true)
  else if is "-h" || is "-L" then
    some fun a =>
      match w.tree.resolve w.cwd ⟨a⟩ false with
      | .ok l =>
        match w.tree.get? l with
        | some (.link _) => true
        | _ => false
      | .error _ => false
  else if ["-b", "-c", "-g", "-k", "-p", "-u", "-S", "-t"].any is then some fun _ => false
  else none

/-- The value of a comparison, if there is one of that name, or a message. -/
def compare? (a operator b : Text) : Option (Except Text Bool) :=
  match textComparison? operator, comparison? operator with
  | some f, _ => some (.ok (f a b))
  | none, some f =>
    some (match integer? a, integer? b with
      | some x, some y => .ok (f x y)
      | none, _ => .error ("Illegal number: ".toList ++ a)
      | _, none => .error ("Illegal number: ".toList ++ b))
  | none, none => none

/-- What stands next in a condition: alternatives, conjunctions, or one test. -/
inductive TestGoal where
  | any
  | all
  | one
  deriving DecidableEq, Repr

/-- The value of the condition at the start of some texts, and what follows it, or a message. -/
def conditionFrom (w : Workspace) : Nat → TestGoal → List Text → Except Text (Bool × List Text)
  | 0, _, _ => .error "argument expected".toList
  | fuel + 1, .any, ts => do
    let (a, ts) ← conditionFrom w fuel .all ts
    match ts with
    | ['-', 'o'] :: ts => do
      let (b, ts) ← conditionFrom w fuel .any ts
      return (a || b, ts)
    | _ => return (a, ts)
  | fuel + 1, .all, ts => do
    let (a, ts) ← conditionFrom w fuel .one ts
    match ts with
    | ['-', 'a'] :: ts => do
      let (b, ts) ← conditionFrom w fuel .all ts
      return (a && b, ts)
    | _ => return (a, ts)
  | fuel + 1, .one, ts =>
    match ts with
    | [] => .error "argument expected".toList
    | [a] => .ok (a ≠ [], [])
    | a :: b :: rest =>
      match rest, compare? a b (rest.headD []) with
      | _ :: rest, some value => value.map fun v => (v, rest)
      | _, _ =>
        if a = ['!'] then do
          let (v, ts) ← conditionFrom w fuel .one (b :: rest)
          return (!v, ts)
        else if a = ['('] then do
          let (v, ts) ← conditionFrom w fuel .any (b :: rest)
          match ts with
          | [')'] :: ts => return (v, ts)
          | _ => .error "closing paren expected".toList
        else
          match unaryTest? w a with
          | some f => .ok (f b, rest)
          | none => .ok (a ≠ [], b :: rest)

/-- The value of a condition, or a message about it. -/
def condition (w : Workspace) (ts : List Text) : Except Text Bool :=
  match ts with
  | [] => .ok false
  | _ =>
    match conditionFrom w (2 * ts.length + 2) .any ts with
    | .error message => .error message
    | .ok (v, []) => .ok v
    | .ok (_, [_]) => .error (ts.headD [] ++ ": unexpected operator".toList)
    | .ok (_, t :: _) => .error (t ++ ": unexpected operator".toList)

/-! ## Reading -/

/-- A line of input, its characters with the mark whether they were escaped, the input after it, and
whether it is complete.  Unless the line is taken as it is, a backslash escapes the next character
and joins lines. -/
def readLine (asItIs : Bool) : Nat → Bytes → List (Char × Bool) × Bytes × Bool
  | 0, input => ([], input, false)
  | fuel + 1, input =>
    let line := Utf8.decodeLossy (input.takeWhile (· ≠ 10))
    let after := input.dropWhile (· ≠ 10)
    let rest := after.drop 1
    if asItIs then (line.map fun c => (c, false), rest, after ≠ [])
    else
      let rec unescape : Text → List (Char × Bool) × Bool
        | [] => ([], false)
        | ['\\'] => ([], true)
        | '\\' :: c :: cs =>
          let more := unescape cs
          ((c, true) :: more.1, more.2)
        | c :: cs =>
          let more := unescape cs
          ((c, false) :: more.1, more.2)
      let (chars, joins) := unescape line
      if joins && after ≠ [] then
        let more := readLine asItIs fuel rest
        (chars ++ more.1, more.2)
      else (chars, rest, after ≠ [])

/-- The state with a line divided among variables; the last one takes the rest. -/
def readInto (s : State) : List Text → List (Char × Bool) → State
  | [], _ => s
  | name :: names, line =>
    let isSeparator (c : Char × Bool) : Bool := !c.2 && decide (c.1 ∈ s.separators)
    let isBlank (c : Char × Bool) : Bool :=
      isSeparator c && (c.1 = ' ' || c.1 = '\t' || c.1 = '\n')
    let line := line.dropWhile isBlank
    match names with
    | [] => s.assign name ((line.reverse.dropWhile isBlank).reverse.map Prod.fst)
    | _ :: _ =>
      let rest := (line.dropWhile (!isSeparator ·)).dropWhile isBlank
      let rest := if rest.head?.any isSeparator then rest.drop 1 else rest
      readInto (s.assign name ((line.takeWhile (!isSeparator ·)).map Prod.fst)) names rest

/-! ## Commands -/

/-- The digits of an argument as a number. -/
def digits? (t : Text) : Option Nat :=
  if t ≠ [] && t.all Char.isDigit then some (Arithmetic.number t).toNat else none

/-- The state after `set`: options, and the arguments if there are any. -/
def setOptions (s : State) : List Text → State
  | [] => s
  | ['-', '-'] :: rest => { s with arguments := rest }
  | ('-' :: c :: cs) :: rest =>
    setOptions (if (c :: cs).contains 'e' then { s with stopsOnFailure := true } else s) rest
  | ('+' :: c :: cs) :: rest =>
    setOptions (if (c :: cs).contains 'e' then { s with stopsOnFailure := false } else s) rest
  | arguments => { s with arguments }

/-- The state with a variable that a declaration sets or only names. -/
def declare (s : State) (t : Text) : State :=
  match t.dropWhile (· ≠ '=') with
  | [] => s
  | _ :: value => s.assign (t.takeWhile (· ≠ '=')) value

/-- The state after the working directory has changed. -/
def changeDirectory (line : Nat) (s : State) (target : Text) : State :=
  match s.workspace.tree.resolve s.workspace.cwd ⟨target⟩ true with
  | .ok l =>
    if s.workspace.isDirectory ⟨target⟩ then
      ({ s with workspace := { s.workspace with cwd := l } }).done 0
    else (s.complain line ("cd: can't cd to ".toList ++ target)).done 2
  | .error _ => (s.complain line ("cd: can't cd to ".toList ++ target)).done 2

/-- The state after a jump out of loops, of which there may be none. -/
def jumpOut (s : State) (jump : Nat → Jump) (arguments : List Text) : State :=
  if s.loops = 0 then s.done 0
  else
    let n := match arguments with
      | a :: _ => (digits? a).getD 1
      | [] => 1
    { s.done 0 with jump := some (jump (min n s.loops)) }

/-- The state after a command has printed something. -/
def State.print (s : State) (line : Nat) (name : Text) (bytes : Bytes) (status : Nat) : State :=
  if s.out = .closed then
    (s.complain line (name ++ ": ".toList ++ name ++ ": I/O error".toList)).done 1
  else (s.emit bytes).done status

/-- The state after `printf`. -/
def printFormatted (line : Nat) (arguments : List Text) (s : State) : State :=
  let name := "printf".toList
  let complain (s : State) (message : Text) : State :=
    s.complain line (name ++ ": ".toList ++ message)
  let go : List Text → State
    | [] => (complain s "usage: printf format [arg ...]".toList).done 2
    | f :: rest =>
      let p := format (rest.length + 1) f rest
      (p.remarks.foldl complain s).print line name p.bytes p.status
  match arguments with
  | ['-', '-'] :: rest => go rest
  | ('-' :: c :: _) :: _ => (complain s ("Illegal option -".toList ++ [c])).done 2
  | _ => go arguments

/-- The state after a command that the script knows by itself; nothing if it does not know it. -/
def builtin? (line : Nat) (name : Text) (arguments : List Text) (s : State) : Option State :=
  let is (n : String) : Bool := name = n.toList
  if is "echo" then some (s.print line name (echo arguments) 0)
  else if is "printf" then some (printFormatted line arguments s)
  else if is "pwd" then some ((s.emit (Utf8.encode (s.workspace.directory.text ++ ['\n']))).done 0)
  else if is "cd" then
    some (match arguments with
      | [] => s.done 0
      | a :: _ => changeDirectory line s a)
  else if is "shift" then
    let n := match arguments with
      | [] => 1
      | a :: _ => (digits? a).getD 1
    some (if s.arguments.length < n then
        (s.complain line "shift: can't shift that many".toList).ending 2
      else ({ s with arguments := s.arguments.drop n }).done 0)
  else if is "umask" && arguments = [] then some (s.print line name (Utf8.encode "0022\n".toList) 0)
  else if is ":" || is "true" || is "wait" || is "umask" || is "times" then some (s.done 0)
  else if is "false" then some (s.done 1)
  else if is "exit" || is "return" then
    let finish (status : Nat) : State :=
      if is "exit" then s.ending status else { s.done status with jump := some .leaveFunction }
    some (match arguments with
      | [] => finish s.status
      | a :: _ =>
        match digits? a with
        | some n => finish (n % 256)
        | none => (s.complain line (name ++ ": Illegal number: ".toList ++ a)).ending 2)
  else if is "break" then some (jumpOut s .leave arguments)
  else if is "continue" then some (jumpOut s .next arguments)
  else if is "kill" then
    let targets := arguments.filter fun a => a.head? ≠ some '-'
    some (if !targets.contains State.processNumber then
        (s.complain line "kill: No such process".toList).done 1
      else if arguments.contains "-0".toList then s.done 0
      else { s with ended := some none })
  else if is "read" then
    let names := arguments.filter fun a => a.head? ≠ some '-'
    let asItIs := arguments.any fun a => a.head? = some '-' && decide ('r' ∈ a)
    if names = [] then some ((s.complain line "read: arg count".toList).done 2)
    else
      let (chars, rest, complete) := readLine asItIs (s.input.length + 1) s.input
      some ((readInto { s with input := rest } names chars).done (if complete then 0 else 1))
  else if is "set" then some ((setOptions s arguments).done 0)
  else if is "export" || is "readonly" then some ((arguments.foldl declare s).done 0)
  else if is "local" then
    some (match s.locals with
      | none => (s.complain line "local: not in a function".toList).ending 2
      | some names =>
        let named := arguments.map fun a => a.takeWhile (· ≠ '=')
        (arguments.foldl declare { s with locals := some (named ++ names) }).done 0)
  else if is "unset" then
    some ((arguments.foldl (fun s n => s.assign? n none) s).done 0)
  else if is "trap" then
    some (match arguments with
      | commands :: signals =>
        if signals.any fun t => t = "EXIT".toList || t = ['0'] then
          ({ s with atExit := if commands = ['-'] then [] else commands }).done 0
        else s.done 0
      | [] => s.done 0)
  else if is "[" || is "test" then
    let inner := if is "[" then arguments.dropLast else arguments
    if is "[" && arguments.getLast? ≠ some [']'] then
      some ((s.complain line "[: missing ]".toList).done 2)
    else
      some (match condition s.workspace inner with
        | .ok b => s.done (if b then 0 else 1)
        | .error message => (s.complain line (name ++ ": ".toList ++ message)).done 2)
  else none

/-- The commands before which assignments stay. -/
def isSpecialCommand (name : Text) : Bool :=
  [":", "break", "continue", "exit", "export", "readonly", "return", "set", "shift", "trap",
    "unset", "eval", "exec", "."].any fun n => n.toList = name

end Script

end LogMigration
