import LogMigration.Require.Reference
import LogMigration.Require.Specifier

/-!
# Inserting the logger import

The import goes after the last single-line `const … = require(…);` declaration of a file.

* `Anchor.isAnchor` — whether a line is such a declaration.
* `Anchor.insertAfterLast?` — a list of lines with one more after the last anchor.
* `LoggerTarget.ensureImport` — the text with the import, and what was done to it.
-/

set_option autoImplicit false

namespace LogMigration

namespace Anchor

/-- Whether the text begins with ` = require(`, with at least something and a closing `);` left. -/
def opensRequire (s : Text) : Bool :=
  match Text.dropPrefix? " = require(".toList s with
  | some (_ :: _ :: _ :: _) => true
  | _ => false

/-- Whether a line is a declaration `const … = require(…);` and nothing else, with something in
both places. -/
def isAnchor (line : Text) : Bool :=
  match Text.dropPrefix? "const ".toList line with
  | some (_ :: rest) => Text.endsWith ");".toList rest && Text.anySuffix opensRequire rest
  | _ => false

/-- The lines with `new` after the last anchor, when there is one. -/
def insertAfterLast? (new : Text) : List Text → Option (List Text)
  | [] => none
  | l :: ls =>
    match insertAfterLast? new ls with
    | some out => some (l :: out)
    | none => if isAnchor l then some (l :: new :: ls) else none

end Anchor

/-- What became of the logger import of a file. -/
inductive ImportOutcome where
  /-- The file requires the logger already. -/
  | alreadyPresent
  /-- An import with this specifier was inserted. -/
  | inserted (specifier : Text)
  /-- There is no declaration to put the import after. -/
  | noAnchor
  deriving DecidableEq, Repr

namespace LoggerTarget

/-- The import line for a specifier. -/
def importLine (target : LoggerTarget) (specifier : Text) : Text :=
  "const ".toList ++ target.binding ++ " = require('".toList ++ specifier ++ "');".toList

/-- The text with the logger import, and what was done to it. -/
def ensureImport (cwd : Path) (target : LoggerTarget) (file : Path) (s : Text) :
    Text × ImportOutcome :=
  if Reference.inText target.module s then (s, .alreadyPresent)
  else
    let specifier := target.specifier cwd file
    match Anchor.insertAfterLast? (target.importLine specifier) (Text.lines s) with
    | some ls => (Text.ofLines ls, .inserted specifier)
    | none => (s, .noAnchor)

end LoggerTarget

end LogMigration
