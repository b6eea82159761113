import LogMigration.Text.Quoted.Table

/-!
# Quoted text

A text in double quotes on one line: quotes, backslashes and the common controls are written with a
backslash, and a character that cannot be shown is written as its number in hexadecimal.
-/

set_option autoImplicit false

namespace LogMigration

namespace Text

namespace Quoted

/-- One character of a quoted text. -/
def quoteChar (c : Char) : Text :=
  if c = '\x00' then "\\0".toList
  else if c = '\t' then "\\t".toList
  else if c = '\r' then "\\r".toList
  else if c = '\n' then "\\n".toList
  else if c = '\\' then "\\\\".toList
  else if c = '"' then "\\\"".toList
  else if hidden.contains c then "\\u\x7b".toList ++ Nat.toDigits 16 c.toNat ++ ['\x7d']
  else [c]

end Quoted

def quoted (s : Text) : Text := '"' :: s.flatMap Quoted.quoteChar ++ ['"']

end Text

end LogMigration
