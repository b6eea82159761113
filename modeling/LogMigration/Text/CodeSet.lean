import LogMigration.Text.Basic

/-!
# Sets of code points

A set of characters is given by the increasing list of the code points at which membership changes:
a code point is in the set when an odd number of bounds lie at or below it.
-/

set_option autoImplicit false

namespace LogMigration

namespace Text

/-- A set of characters, as the increasing list of the code points at which membership changes. -/
structure CodeSet where
  bounds : List Nat
  deriving Repr

/-- Whether a character is in the set. -/
def CodeSet.contains (set : CodeSet) (c : Char) : Bool :=
  set.bounds.countP (fun b => decide (b ≤ c.toNat)) % 2 == 1

end Text

end LogMigration
