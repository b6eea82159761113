import LogMigration.Text.Utf8
import LogMigration.Failure

/-!
# What a program leaves behind

The exit status of a program and what it printed.
-/

set_option autoImplicit false

namespace LogMigration

/-- How a program ended and what it printed.  A program that was killed has no status. -/
structure ProgramOutput where
  code : Option Int
  stdout : Bytes := []
  stderr : Bytes := []
  deriving DecidableEq, Repr

/-- What programs print for an error of the system. -/
def IoError.reason : IoError → String
  | .notFound => "No such file or directory"
  | .permissionDenied => "Permission denied"
  | .notADirectory => "Not a directory"
  | .isADirectory => "Is a directory"
  | .tooManyLinks => "Too many levels of symbolic links"
  | .nameTooLong => "File name too long"
  | e => e.message

end LogMigration
