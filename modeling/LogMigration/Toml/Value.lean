import LogMigration.Text.Basic

/-!
# Values of a configuration document

A document is a table of keys and values.  A table remembers how it came to be, because that decides
whether a later line may add to it.

* `Value` — the values of a document.
* `Entries.put?` — a table with one more value under a dotted key.
* `Entries.alter?` — a table with the value under a header's path changed.
-/

set_option autoImplicit false

namespace LogMigration

namespace Toml

/-- How a table came to be. -/
inductive Origin where
  /-- By a header of its own. -/
  | header
  /-- As the parent of a table with a header. -/
  | parent
  /-- By a dotted key. -/
  | dotted
  /-- Written in braces. -/
  | inline
  deriving DecidableEq, Repr

/-- A value of a document.  Numbers with a fraction, dates and times keep their spelling. -/
inductive Value where
  | string (s : Text)
  | integer (n : Int)
  | float (spelling : Text)
  | boolean (b : Bool)
  | dateTime (spelling : Text)
  | array (items : List Value)
  | table (origin : Origin) (entries : List (Text × Value))
  /-- The tables of a repeated header. -/
  | tables (items : List (List (Text × Value)))
  deriving Repr

/-- The keys and values of a table, in order. -/
abbrev Entries := List (Text × Value)

namespace Entries

def get? (es : Entries) (key : Text) : Option Value :=
  (es.find? fun e => e.1 = key).map Prod.snd

/-- The entries with the value of a key replaced, or added at the end. -/
def set (es : Entries) (key : Text) (v : Value) : Entries :=
  if es.any (fun e => e.1 = key) then es.map fun e => if e.1 = key then (key, v) else e
  else es ++ [(key, v)]

/-- Adds a value under a key behind a dotted path.  A key may not be given twice, and a dotted path
may lead only through tables that dotted keys have made. -/
def put? : List Text → Text → Value → Entries → Option Entries
  | [], key, v, es => if (es.get? key).isSome then none else some (es ++ [(key, v)])
  | k :: path, key, v, es =>
    match es.get? k with
    | none => (put? path key v []).map fun sub => es ++ [(k, .table .dotted sub)]
    | some (.table .dotted sub) =>
      (put? path key v sub).map fun sub => es.set k (.table .dotted sub)
    | some (.table .parent sub) =>
      if path = [] then none
      else (put? path key v sub).map fun sub => es.set k (.table .parent sub)
    | some (.tables items) =>
      if path = [] then none
      else
        (items.getLast?.bind (put? path key v)).map fun sub =>
          es.set k (.tables (items.dropLast ++ [sub]))
    | some _ => none

/-- Changes the value under a header's path.  Tables on the way are made where they are missing, and
of a repeated header the last table is meant. -/
def alter? (f : Option Value → Option Value) : List Text → Entries → Option Entries
  | [], _ => none
  | [k], es => (f (es.get? k)).map (es.set k)
  | k :: path, es =>
    match es.get? k with
    | none => (alter? f path []).map fun sub => es.set k (.table .parent sub)
    | some (.table .inline _) => none
    | some (.table origin sub) => (alter? f path sub).map fun sub => es.set k (.table origin sub)
    | some (.tables items) =>
      (items.getLast?.bind (alter? f path)).map fun sub =>
        es.set k (.tables (items.dropLast ++ [sub]))
    | some _ => none

end Entries

end Toml

end LogMigration
