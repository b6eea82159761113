import LogMigration.Program.Script.Arithmetic
import LogMigration.Program.Script.State
import LogMigration.Program.Wildcard

/-!
# Expansion of words

A word is expanded part by part; what unquoted expansions give is divided into fields, and a field
with unquoted wildcards is replaced by the names of files that fit it.

* `Script.expandFields` — the fields of words.
* `Script.expandText` — a word that stays in one piece.
-/

set_option autoImplicit false

namespace LogMigration

namespace Script

/-- Characters, each with the mark whether it is quoted. -/
abbrev Field := List (Char × Bool)

/-- A text with one mark for all characters. -/
def Field.of (quoted : Bool) (t : Text) : Field := t.map fun c => (c, quoted)

def Field.text (f : Field) : Text := f.map Prod.fst

/-- The pattern that a field is: quoted characters stand for themselves. -/
def Field.pattern (f : Field) : Text :=
  f.flatMap fun (c, quoted) => if quoted then ['\\', c] else [c]

/-- Fields as they are put together: those that are complete, the one that is open, and whether
white space has closed the last one. -/
structure Fields where
  closed : List Field := []
  current : Option Field := none
  afterBlank : Bool := false

namespace Fields

/-- Adds to the open field. -/
def add (f : Fields) (t : Field) : Fields :=
  { f with current := some (f.current.getD [] ++ t), afterBlank := false }

/-- Closes the open field. -/
def close (f : Fields) : Fields :=
  { closed := f.closed ++ f.current.toList, afterBlank := f.afterBlank || f.current.isSome }

/-- Adds unquoted text that is divided at separators.  White space around a field says nothing; any
other separator closes a field, even an empty one, together with the white space before it. -/
def addDivided (f : Fields) (separators t : Text) : Fields :=
  t.foldl
    (fun (f : Fields) (c : Char) =>
      if !List.contains separators c then f.add [(c, false)]
      else if c = ' ' || c = '\t' || c = '\n' then f.close
      else if f.afterBlank then { f with afterBlank := false }
      else { closed := f.closed ++ [f.current.getD []] })
    f

end Fields

/-! ## File names -/

def Field.hasWildcard (f : Field) : Bool :=
  f.any fun (c, quoted) => !quoted && (c = '*' || c = '?' || c = '[')

def Field.segments : Field → List Field
  | [] => [[]]
  | (c, quoted) :: rest =>
    match segments rest with
    | [] => [[(c, quoted)]]
    | s :: ss => if c = '/' then [] :: s :: ss else ((c, quoted) :: s) :: ss

/-- The names in a directory that fit a segment.  A name with a dot in front has to be asked for. -/
def fittingNames (w : Workspace) (directory : Text) (segment : Field) : List Text :=
  let here := if directory = [] then ['.'] else directory
  match w.tree.resolve w.cwd ⟨here⟩ true with
  | .error _ => []
  | .ok l =>
    (w.tree.below l).filterMap fun
      | ([name], _) =>
        let hidden := name.head? = some '.' && segment.head?.map Prod.fst ≠ some '.'
        if !hidden && Wildcard.fits segment.pattern name then some name else none
      | _ => none

/-- The paths that fit segments, after the text that leads to them. -/
def fittingPaths (w : Workspace) (directory : Text) : List Field → List Text
  | [] => []
  | [segment] =>
    if segment.hasWildcard then (fittingNames w directory segment).map (directory ++ ·)
    else
      let path := directory ++ segment.text
      if w.tree.resolve w.cwd ⟨path⟩ false |>.isOk then [path] else []
  | segment :: rest =>
    if segment.hasWildcard then
      (fittingNames w directory segment).flatMap fun name =>
        if w.isDirectory ⟨directory ++ name⟩ then
          fittingPaths w (directory ++ name ++ ['/']) rest
        else []
    else fittingPaths w (directory ++ segment.text ++ ['/']) rest

/-- The texts that a field stands for: the paths that fit it in order, or itself. -/
def Field.texts (w : Workspace) (f : Field) : List Text :=
  if f.hasWildcard then
    match (fittingPaths w [] f.segments).mergeSort fun a b => !decide (b < a) with
    | [] => [f.text]
    | paths => paths
  else [f.text]

/-! ## Expansion -/

/-- Runs commands and gives what they print. -/
abbrev Runner := Text → State → Bytes × State

/-- The text that the output of commands stands for: without line ends after it. -/
def outputText (bytes : Bytes) : Text :=
  let t := Utf8.decodeLossy (bytes.filter (· ≠ 0))
  (t.reverse.dropWhile (· = '\n')).reverse

/-- A text without the end that fits a pattern. -/
def dropEnd (longest : Bool) (pattern t : Text) : Text :=
  let rests := if longest then Rests.all t else (Rests.all t).reverse
  match rests.find? (Wildcard.fits pattern) with
  | some r => t.take (t.length - r.length)
  | none => t

/-- A text without the start that fits a pattern. -/
def dropStart (longest : Bool) (pattern t : Text) : Text :=
  let starts := (List.range (t.length + 1)).map t.take
  match (if longest then starts.reverse else starts).find? (Wildcard.fits pattern) with
  | some p => t.drop p.length
  | none => t

/-- How results are put into fields. -/
structure Mode where
  /-- Whether results of unquoted expansions are divided. -/
  divides : Bool
  /-- Whether unquoted text is itself the result of an expansion. -/
  nested : Bool := false
  line : Nat

/-- Adds the result of an expansion to fields. -/
def addResult (m : Mode) (s : State) (quoted : Bool) (t : Text) (f : Fields) : Fields :=
  if quoted then f.add (Field.of true t)
  else if m.divides then f.addDivided s.separators t
  else f.add (Field.of false t)

/-- Adds all arguments to fields. -/
def addArguments (m : Mode) (s : State) (name : Text) (quoted : Bool) (f : Fields) : Fields :=
  if quoted && name = ['*'] || !m.divides then
    let between := if quoted && name = ['*'] then s.separators.take 1 else [' ']
    f.add (Field.of quoted (Text.joinWith between s.arguments))
  else
    match s.arguments with
    | [] => f
    | first :: others =>
      others.foldl (fun f a => addResult m s quoted a f.close) (addResult m s quoted first f)

/-- Expands the parts of a word, one after the other.  A state in place of a result is that of a
script which cannot go on. -/
def expandParts (run : Runner) (m : Mode) : Nat → Word → State → Fields →
    Except State (State × Fields)
  | 0, _, s, _ => .error { s with ended := some none }
  | _ + 1, [], s, f => .ok (s, f)
  | fuel + 1, part :: rest, s, f => do
    let inner (quoted : Bool) (t : Text) (s : State) (f : Fields) : Except State (State × Fields) :=
      expandParts run { m with nested := true } fuel
        (if quoted then wholeQuoted t else wholeWord t) s f
    let single (w : Word) (s : State) : Except State (State × Field) := do
      let (s, f) ← expandParts run { m with divides := false } fuel w s {}
      return (s, f.current.getD [])
    let (s, f) ← match part with
      | .literal t quoted =>
        if m.nested && !quoted then pure (s, addResult m s false t f)
        else pure (s, f.add (Field.of quoted t))
      | .bad => .error ((s.complain m.line "Bad substitution".toList).ending 2)
      | .command source quoted =>
        let (bytes, s) := run source s
        if s.ended.isSome then .error s else pure (s, addResult m s quoted (outputText bytes) f)
      | .arithmetic e quoted => do
        let (s, field) ← single (wholeQuoted e) s
        match Arithmetic.eval s.value field.text with
        | .ok (n, set) =>
          let s := set.reverse.foldl (fun s v => s.assign v.1 (toString v.2).toList) s
          pure (s, addResult m s quoted (toString n).toList f)
        | .error fault => .error ((s.complain m.line (fault.message field.text)).ending 2)
      | .parameter name change quoted =>
        let value := s.value? name
        let missing (colon : Bool) : Bool := if colon then value.all (· = []) else value.isNone
        match change with
        | .keep =>
          if name = ['@'] || name = ['*'] then pure (s, addArguments m s name quoted f)
          else pure (s, addResult m s quoted (value.getD []) f)
        | .length => pure (s, addResult m s quoted (toString (value.getD []).length).toList f)
        | .fallback colon w =>
          if missing colon then inner quoted w s f
          else pure (s, addResult m s quoted (value.getD []) f)
        | .alternative colon w =>
          if missing colon then pure (s, if quoted then f.add [] else f) else inner quoted w s f
        | .assign colon w => do
          if missing colon then
            let (s, field) ← single (wholeWord w) s
            let s := s.assign name field.text
            pure (s, addResult m s quoted field.text f)
          else pure (s, addResult m s quoted (value.getD []) f)
        | .required colon w => do
          if missing colon then
            let (s, field) ← single (wholeWord w) s
            let unset := if colon then "parameter not set or null" else "parameter not set"
            let reason := if w = [] then unset.toList else field.text
            .error ((s.complain m.line (name ++ ": ".toList ++ reason)).ending 2)
          else pure (s, addResult m s quoted (value.getD []) f)
        | .dropStart longest w => do
          let (s, field) ← single (wholeWord w) s
          pure (s, addResult m s quoted (dropStart longest field.pattern (value.getD [])) f)
        | .dropEnd longest w => do
          let (s, field) ← single (wholeWord w) s
          pure (s, addResult m s quoted (dropEnd longest field.pattern (value.getD [])) f)
    expandParts run m fuel rest s f

/-- The most parts and nested words that are expanded one after the other. -/
def expansionLimit : Nat := 100000

def expandFields (run : Runner) (line : Nat) : List Word → State → Except State (State × List Text)
  | [], s => .ok (s, [])
  | w :: ws, s => do
    let (s, f) ← expandParts run { divides := true, line } expansionLimit w s {}
    let texts := f.close.closed.flatMap fun field => field.texts s.workspace
    let (s, more) ← expandFields run line ws s
    return (s, texts ++ more)

/-- A word in one piece. -/
def expandField (run : Runner) (line : Nat) (w : Word) (s : State) :
    Except State (State × Field) := do
  let (s, f) ← expandParts run { divides := false, line } expansionLimit w s {}
  return (s, f.current.getD [])

def expandText (run : Runner) (line : Nat) (w : Word) (s : State) :
    Except State (State × Text) := do
  let (s, f) ← expandField run line w s
  return (s, f.text)

end Script

end LogMigration
