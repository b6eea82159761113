import LogMigration.CommandLine.Options

/-!
# Reading the command line

Flags for all commands come first, then the name of a command, then its options.

* `Request.parse` — the request that arguments make.
-/

set_option autoImplicit false

namespace LogMigration

/-- The commands by name. -/
inductive CommandName where
  | doctor
  | run
  | check
  | help
  deriving DecidableEq, Repr

namespace CommandName

def ofText? (s : Text) : Option CommandName :=
  if s = "doctor".toList then some .doctor
  else if s = "run".toList then some .run
  else if s = "check".toList then some .check
  else if s = "help".toList then some .help
  else none

/-- What asking for help on a list of names gives: only the first can be a command. -/
def helpOn : List Text → UsageError
  | [] => .helpRequested
  | [name] => if (ofText? name).isSome then .helpRequested else .unknownCommand
  | _ => .unknownCommand

def request (verbosity : Nat) (arguments : List Text) : CommandName → Except UsageError Request
  | .doctor => (Options.parse false arguments).map (Options.request verbosity .doctor)
  | .run => (Options.parse true arguments).map fun o => o.request verbosity (.run o.dryRun)
  | .check => (Options.parse false arguments).map (Options.request verbosity .check)
  | .help => .error (helpOn arguments)

end CommandName

namespace Request

/-- The verbosity after a cluster of flags. -/
def takeFlags : Text → Nat → Except UsageError Nat
  | [], verbosity => .ok verbosity
  | 'v' :: rest, verbosity => takeFlags rest (verbosity + 1)
  | 'h' :: _, _ => .error .helpRequested
  | 'V' :: _, _ => .error .versionRequested
  | _ :: _, _ => .error .unknownArgument

/-- What a long flag before the command gives. -/
def longFlag (name : Text) (value : Option Text) : UsageError :=
  match value with
  | none =>
    if name = "help".toList then .helpRequested
    else if name = "version".toList then .versionRequested
    else .unknownArgument
  | some _ =>
    if name = "help".toList || name = "version".toList then .valueForFlag else .unknownArgument

/-- What arguments without a command give. -/
def withoutCommand : Nat → UsageError
  | 0 => .nothingGiven
  | _ => .missingCommand

/-- The request that arguments make, after flags for more of the log.  After the mark no command
can be named. -/
def parseFrom (verbosity : Nat) : List Text → Except UsageError Request
  | [] => .error (withoutCommand verbosity)
  | s :: rest =>
    match CommandName.ofText? s with
    | some command => command.request verbosity rest
    | none =>
      match Argument.ofText s with
      | .mark =>
        match rest with
        | [] => .error (withoutCommand verbosity)
        | name :: _ =>
          if (CommandName.ofText? name).isSome then .error .unknownArgument
          else .error .unknownCommand
      | .long name value => .error (longFlag name value)
      | .cluster first letters =>
        (takeFlags (first :: letters) verbosity).bind fun verbosity => parseFrom verbosity rest
      | .plain _ => .error .unknownCommand

def parse (arguments : List Text) : Except UsageError Request := parseFrom 0 arguments

end Request

end LogMigration
