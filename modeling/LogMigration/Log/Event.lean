/-!
# Log events

A log is a list of events.  What a run logs is a function of what it did, so events are data that is
derived afterwards; which of them are shown is decided by a filter.

* `Event` — what is logged.
* `Event.line` — the line that shows an event.
-/

set_option autoImplicit false

namespace LogMigration

/-- How much an event matters. -/
inductive Level where
  | error
  | warn
  | info
  | debug
  | trace
  deriving DecidableEq, Repr

namespace Level

/-- The more an event matters, the lower its rank. -/
def rank : Level → Nat
  | .error => 1
  | .warn => 2
  | .info => 3
  | .debug => 4
  | .trace => 5

/-- The level in five columns. -/
def label : Level → String
  | .error => "ERROR"
  | .warn => " WARN"
  | .info => " INFO"
  | .debug => "DEBUG"
  | .trace => "TRACE"

end Level

/-- The part of the program that an event comes from. -/
inductive Origin where
  /-- Finding the configuration. -/
  | config
  /-- Scanning for files with statements. -/
  | scan
  /-- Putting in the logger import. -/
  | imports
  /-- Applying the rules. -/
  | rules
  /-- Converting a tree. -/
  | run
  /-- Scanning again at the end of a run. -/
  | finalScan
  deriving DecidableEq, Repr

/-- The name of the part, by which a log filter speaks of it. -/
def Origin.name : Origin → String
  | .config => "console_to_logger::config"
  | .scan => "console_to_logger::locator"
  | .imports => "console_to_logger::rewrite::imports"
  | .rules => "console_to_logger::rewrite::rules"
  | .run => "console_to_logger::commands::run"
  | .finalScan => "console_to_logger::verification"

/-- An event: its level, the part of the program that it comes from, a message, and named values. -/
structure Event where
  level : Level
  origin : Origin
  message : String
  fields : List (String × String) := []
  deriving DecidableEq, Repr

namespace Event

/-- The names of what an event carries: its message and its named values. -/
def names (e : Event) : List (List Char) :=
  "message".toList :: e.fields.map fun f => f.1.toList

/-- A character of a message.  One that could steer the terminal is shown by its number. -/
def showChar (c : Char) : List Char :=
  let code := c.toNat
  let digits := Nat.toDigits 16 code
  if [0x07, 0x08, 0x0c, 0x1b, 0x7f].contains code then
    "\\x".toList ++ List.replicate (2 - digits.length) '0' ++ digits
  else if 0x80 ≤ code && code ≤ 0x9f then "\\u\x7b".toList ++ digits ++ ['\x7d']
  else [c]

def line (e : Event) : String :=
  e.level.label ++ " " ++ String.ofList (e.message.toList.flatMap showChar)
    ++ String.join (e.fields.map fun (k, v) => " " ++ k ++ "=" ++ v)

end Event

end LogMigration
