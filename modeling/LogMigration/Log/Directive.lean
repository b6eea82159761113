import LogMigration.Log.Event
import LogMigration.Text.Alphanumeric
import LogMigration.Text.Count
import LogMigration.Text.WhiteSpace

/-!
# Log directives

A directive gives a threshold to the events of all parts of the program whose name begins with a
text.  It is written `scope`, `scope=level` or `level`; before the level there may be a bracket with
the name of a stage and, in braces, a named value that the event has to carry.

* `Directive.speaksOf` — whether a directive says anything about an event.
* `Directive.moreSpecific` — which of two directives decides.
* `Directive.parse` — the directive that a text spells.
-/

set_option autoImplicit false

namespace LogMigration

/-- The least important level that is shown for the events that a directive speaks of. -/
structure Directive where
  /-- What the name of the part begins with; nothing, if the directive speaks of all parts. -/
  scope : Text := []
  /-- The stage of the run that the directive is limited to, if there is one. -/
  stage : Option Text := none
  /-- The named value that an event has to carry, with the value that is asked for, if any is. -/
  field : Option (Text × Option Text) := none
  /-- The least important level that is shown; none, if nothing is. -/
  threshold : Option Level := some .trace
  deriving DecidableEq, Repr

/-- Why a text spells no directive. -/
inductive DirectiveError where
  | malformed
  | unknownLevel
  deriving DecidableEq, Repr

def DirectiveError.message : DirectiveError → String
  | .malformed => "invalid filter directive"
  | .unknownLevel =>
    "error parsing level filter: expected one of \"off\", \"error\", \"warn\", \"info\", "
      ++ "\"debug\", \"trace\", or a number 0-5"

namespace Directive

/-! ## What a directive says -/

def fieldName (d : Directive) : Option Text := d.field.map Prod.fst

/-- Whether the directive can decide about an event.  A run has no stages and the values of an event
are not looked at, so a directive that asks for one of these never does. -/
def decides (d : Directive) : Bool := d.stage.isNone && d.field.all fun f => f.2.isNone

/-- Whether the directive speaks of an event: it can decide, the part has the scope, and the event
carries the named value. -/
def speaksOf (e : Event) (d : Directive) : Bool :=
  d.decides && Text.startsWith d.scope e.origin.name.toList
    && d.fieldName.all e.names.contains

/-- The more specific of two directives that speak of one event: the one with the longer scope, then
the one that names a value, then the one with the greater name; else the later one. -/
def moreSpecific (a b : Directive) : Directive :=
  if a.scope.length ≠ b.scope.length then
    if a.scope.length < b.scope.length then b else a
  else
    match a.fieldName, b.fieldName with
    | some _, none => a
    | some m, some n => if n < m then a else b
    | none, _ => b

/-! ## Reading a directive -/

def thresholds : List (String × Option Level) :=
  [("off", none), ("error", some .error), ("warn", some .warn), ("info", some .info),
    ("debug", some .debug), ("trace", some .trace)]

/-- The threshold that a text spells: a name in any case, or the place of one. -/
def threshold? (s : Text) : Option (Option Level) :=
  match (Text.count? s).bind (thresholds[·]?) with
  | some t => some t.2
  | none => (thresholds.find? fun t => t.1.toList = s.map Char.toLower).map Prod.snd

/-- Whether a scope can begin with a character. -/
def isScopeStart (c : Char) : Bool :=
  c = '-' || c = ':' || c = '_' || Text.alphanumeric.contains c

/-- The directive with the threshold that follows.  An empty one shows everything. -/
def withThreshold (d : Directive) : Text → Except DirectiveError Directive
  | [] => .ok { d with threshold := some .trace }
  | level =>
    match threshold? level with
    | some threshold => .ok { d with threshold }
    | none => .error .unknownLevel

/-- The directive that a text without marks spells: a threshold for all parts, or else a scope. -/
def ofName (s : Text) : Directive :=
  match threshold? s with
  | some threshold => { threshold }
  | none => { scope := s }

/-- The named value in braces, with the value that is asked for after an equals sign. -/
def fieldOf (s : Text) : Text × Option Text :=
  (s.takeWhile (· ≠ '='),
    match s.dropWhile (· ≠ '=') with
    | [] => none
    | _ :: value => some (value.takeWhile (· ≠ '=')))

/-- The part of a text between two places. -/
def between (s : Text) (first last : Nat) : Text := (s.drop first).take (last - first)

/-- The place, from another place on, of the first character that passes, or the end. -/
def placeFrom (s : Text) (first : Nat) (p : Char → Bool) : Nat :=
  first + ((s.drop first).takeWhile fun c => !p c).length

/-- The rest of a directive after its bracket, from a place on. -/
def afterBracket (written trimmed : Text) (d : Directive) (here : Nat) :
    Except DirectiveError Directive :=
  match trimmed.drop here with
  | [] => .ok d
  | '=' :: _ => d.withThreshold (written.drop (here + 1))
  | _ => .error .malformed

/-- The rest of a directive from the inside of its bracket on. -/
def inBracket (written trimmed : Text) (d : Directive) (start : Nat) :
    Except DirectiveError Directive :=
  let stop := placeFrom trimmed start fun c => c = ']' || c = '\x7b'
  let stage := between written start stop
  match trimmed.drop stop with
  | [] => .error .malformed
  | ']' :: _ => afterBracket written trimmed { d with stage := some stage } (stop + 1)
  | _ :: _ =>
    let close := placeFrom trimmed (stop + 1) (· = '\x7d')
    match between written (stop + 1) close, trimmed.drop close with
    | c :: field, '\x7d' :: ']' :: _ =>
      let stage := if stage = [] then none else some stage
      let d := { d with stage, field := some (fieldOf (c :: field)) }
      afterBracket written trimmed d (close + 2)
    | _, _ => .error .malformed

/-- The directive that a text spells.  The marks are looked for in the text without the white space
around it, and what stands between them is taken from the same places of the text as written. -/
def parse (written : Text) : Except DirectiveError Directive :=
  let trimmed := Text.trim written
  match trimmed with
  | [] => .error .malformed
  | '[' :: _ => inBracket written trimmed {} 1
  | c :: _ =>
    if !isScopeStart c then .error .malformed
    else
      let mark := placeFrom trimmed 0 fun c => c = '=' || c = '['
      let d : Directive := { scope := written.take mark }
      match trimmed.drop mark with
      | [] => .ok (ofName written)
      | '=' :: _ => d.withThreshold (written.drop (mark + 1))
      | _ :: _ => inBracket written trimmed d (mark + 1)

end Directive

end LogMigration
