import LogMigration.Log.Directive

/-!
# Log filters

A filter is a list of directives, and of those that speak of an event the most specific one decides
whether it is shown.

* `LogFilter.threshold?` — the threshold for an event.
* `LogFilter.shows` — whether an event is shown.
* `LogFilter.ofVerbosity`, `LogFilter.parse` — the filters that can be asked for.
* `LogFilter.remarks` — what is said about a text that does not spell a filter throughout.
-/

set_option autoImplicit false

namespace LogMigration

/-- Directives in the order in which they were given. -/
structure LogFilter where
  directives : List Directive
  deriving DecidableEq, Repr

namespace LogFilter

/-- The threshold for an event; one that no directive speaks of is not shown. -/
def threshold? (f : LogFilter) (e : Event) : Option Level :=
  match f.directives.filter (Directive.speaksOf e) with
  | [] => none
  | d :: ds => (ds.foldl Directive.moreSpecific d).threshold

def shows (f : LogFilter) (e : Event) : Bool :=
  match f.threshold? e with
  | some threshold => decide (e.level.rank ≤ threshold.rank)
  | none => false

/-- The filter with one threshold for all parts. -/
def uniform (threshold : Level) : LogFilter := ⟨[{ threshold := some threshold }]⟩

/-- The filter for a number of requests for more. -/
def ofVerbosity : Nat → LogFilter
  | 0 => uniform .info
  | 1 => uniform .debug
  | _ => uniform .trace

/-- The pieces of a text between commas, without the empty ones. -/
def pieces (s : Text) : List Text := (Text.splitAt ',' s).filter (· ≠ [])

/-- The filter that a text with commas spells.  Pieces that spell no directive are left out; without
any directive, errors are shown. -/
def parse (s : Text) : LogFilter :=
  match (pieces s).filterMap fun piece => (Directive.parse piece).toOption with
  | [] => uniform .error
  | ds => ⟨ds⟩

/-- The remark about a piece that spells no directive. -/
def remark? (piece : Text) : Option String :=
  match Directive.parse piece with
  | .ok _ => none
  | .error e => some ("ignoring `" ++ String.ofList piece ++ "`: " ++ e.message ++ "\n")

/-- The remarks about the pieces of a text that are left out. -/
def remarks (s : Text) : String := String.join ((pieces s).filterMap remark?)

def render (f : LogFilter) (es : List Event) : String :=
  String.join ((es.filter f.shows).map fun e => e.line ++ "\n")

theorem shows_uniform (threshold : Level) (e : Event) :
    (uniform threshold).shows e = decide (e.level.rank ≤ threshold.rank) := by
  have all : Directive.speaksOf e { threshold := some threshold } = true := by
    simp [Directive.speaksOf, Directive.decides, Directive.fieldName, Text.startsWith,
      Text.dropPrefix?]
  simp [shows, uniform, LogFilter.threshold?, all]

end LogFilter

end LogMigration
