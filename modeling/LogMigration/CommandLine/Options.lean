import LogMigration.CommandLine.Argument
import LogMigration.CommandLine.Usage

/-!
# The options of a command

Arguments are taken from left to right.  An option whose value has not been given attached to it
stays open: a plain word becomes its value, and it is settled when the next option comes or the
arguments end.

* `Options.settle` — the options with the open one decided.
* `Options.take` — the options with one more argument.
* `Options.parse` — the options that arguments give.
-/

set_option autoImplicit false

namespace LogMigration

/-- An option that takes a value. -/
inductive OptionName where
  | config
  | root
  | backend
  | treeRoot
  deriving DecidableEq, Repr

namespace OptionName

def all : List OptionName := [.config, .root, .backend, .treeRoot]

/-- The option's long name. -/
def long : OptionName → String
  | .config => "config"
  | .root => "root"
  | .backend => "backend"
  | .treeRoot => "tree-root"

def ofLong? (name : Text) : Option OptionName := all.find? fun o => o.long.toList = name

/-- Whether the option takes a value: directories have a name. -/
def accepts : OptionName → Text → Bool
  | .root, value | .treeRoot, value => value ≠ []
  | .config, _ | .backend, _ => true

end OptionName

/-- An option whose value is still open: no word has followed it, or one has. -/
structure OpenOption where
  name : OptionName
  value : Option Text
  deriving DecidableEq, Repr

/-- The options that have been given so far. -/
structure Options where
  /-- The settled options with their values. -/
  values : List (OptionName × Text) := []
  dryRun : Bool := false
  pending : Option OpenOption := none
  deriving DecidableEq, Repr

namespace Options

def value? (o : Options) (name : OptionName) : Option Text :=
  (o.values.find? fun v => v.1 = name).map Prod.snd

/-- The options with a value set.  No option is given twice. -/
def set (o : Options) (name : OptionName) (value : Text) : Except UsageError Options :=
  if (o.value? name).isSome then .error .repeated
  else if name.accepts value then .ok { o with values := o.values ++ [(name, value)] }
  else .error .invalidValue

/-- The options with the open one decided. -/
def settle (o : Options) : Except UsageError Options :=
  match o.pending with
  | none => .ok o
  | some ⟨_, none⟩ => .error .invalidValue
  | some ⟨name, some value⟩ => { o with pending := none }.set name value

/-- The options with the flag for a rehearsal. -/
def setDryRun (o : Options) : Except UsageError Options :=
  if o.dryRun then .error .repeated else .ok { o with dryRun := true }

/-- The flags of a command by their long names. -/
inductive Flag where
  | help
  | dryRun
  deriving DecidableEq, Repr

/-- The flag with a long name; not all commands can be rehearsed. -/
def flag? (rehearsable : Bool) (name : Text) : Option Flag :=
  if name = "help".toList then some .help
  else if rehearsable && name = "dry-run".toList then some .dryRun
  else none

/-- The options with one more argument. -/
def take (rehearsable : Bool) (o : Options) : Argument → Except UsageError Options
  | .mark => .ok o
  | .long name value =>
    match OptionName.ofLong? name, flag? rehearsable name, value with
    | some option, _, some value => o.settle.bind fun o => o.set option value
    | some option, _, none => o.settle.map fun o => { o with pending := some ⟨option, none⟩ }
    | none, some _, some _ => .error .valueForFlag
    | none, some .help, none => o.settle.bind fun _ => .error .helpRequested
    | none, some .dryRun, none => o.settle.bind setDryRun
    | none, none, _ => .error .unknownArgument
  | .cluster first _ =>
    if first = 'h' then o.settle.bind fun _ => .error .helpRequested
    else .error .unknownArgument
  | .plain word =>
    match o.pending with
    | some ⟨option, none⟩ => .ok { o with pending := some ⟨option, some word⟩ }
    | _ => .error .unknownArgument

/-- The options that arguments give, on top of those so far.  Nothing may follow the mark. -/
def parseFrom (rehearsable : Bool) (o : Options) : List Text → Except UsageError Options
  | [] => o.settle
  | s :: rest =>
    match Argument.ofText s, rest with
    | .mark, [] => o.settle
    | .mark, _ :: _ => .error .unknownArgument
    | argument, _ => (o.take rehearsable argument).bind fun o => parseFrom rehearsable o rest

def parse (rehearsable : Bool) (arguments : List Text) : Except UsageError Options :=
  parseFrom rehearsable {} arguments

def request (verbosity : Nat) (action : Action) (o : Options) : Request where
  verbosity
  action
  config := (o.value? .config).map Path.mk
  overrides := {
    root := (o.value? .root).map Path.mk
    backend := o.value? .backend
    treeRoot := (o.value? .treeRoot).map Path.mk }

end Options

end LogMigration
