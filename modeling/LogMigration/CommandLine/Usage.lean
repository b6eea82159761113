import LogMigration.Config.Basic

/-!
# What the command line asks for

* `Request` — a command with its options.
* `UsageError` — why arguments ask for no command.
-/

set_option autoImplicit false

namespace LogMigration

/-- What is to be done. -/
inductive Action where
  /-- Shows the programs that are there and the configuration in effect. -/
  | doctor
  /-- Converts the tree; a rehearsal writes nothing. -/
  | run (dryRun : Bool)
  /-- Counts statements. -/
  | check
  deriving DecidableEq, Repr

/-- A command with its options. -/
structure Request where
  /-- How often more of the log was asked for. -/
  verbosity : Nat
  action : Action
  /-- The configuration file. -/
  config : Option Path
  overrides : Overrides
  deriving DecidableEq, Repr

/-- Why arguments ask for no command. -/
inductive UsageError where
  /-- They ask for help. -/
  | helpRequested
  /-- They ask for the version. -/
  | versionRequested
  /-- There are none. -/
  | nothingGiven
  /-- They end before a command is named. -/
  | missingCommand
  /-- They name a command that does not exist. -/
  | unknownCommand
  /-- One of them is no option of the command. -/
  | unknownArgument
  /-- An option has no value, or one that it does not take. -/
  | invalidValue
  /-- An option is given twice. -/
  | repeated
  /-- A flag is given a value. -/
  | valueForFlag
  deriving DecidableEq, Repr

namespace UsageError

/-- Whether the user only wanted to read something. -/
def isInquiry : UsageError → Bool
  | .helpRequested | .versionRequested => true
  | _ => false

end UsageError

end LogMigration
