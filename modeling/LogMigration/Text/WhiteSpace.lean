import LogMigration.Text.Basic

/-!
# White space

The characters with the Unicode property `White_Space`, which is what separates an exception
argument from its comma and what is trimmed from the output of a program.
-/

set_option autoImplicit false

namespace LogMigration

namespace Text

/-- The Unicode property `White_Space`. -/
def isWhite (c : Char) : Bool :=
  let n := c.toNat
  (9 ≤ n && n ≤ 13) || n == 0x20 || n == 0x85 || n == 0xA0 || n == 0x1680
    || (0x2000 ≤ n && n ≤ 0x200A) || n == 0x2028 || n == 0x2029 || n == 0x202F || n == 0x205F
    || n == 0x3000

/-- Every blank of the ASCII class is white space. -/
theorem isWhite_of_isWhitespace {c : Char} (h : c.isWhitespace = true) : isWhite c = true := by
  simp only [Char.isWhitespace, Bool.or_eq_true, decide_eq_true_eq] at h
  rcases h with ((h | h) | h) | h <;> subst h <;> decide

def trimStart (s : Text) : Text := s.dropWhile isWhite

def trimEnd (s : Text) : Text := (s.reverse.dropWhile isWhite).reverse

def trim (s : Text) : Text := trimEnd (trimStart s)

end Text

end LogMigration
