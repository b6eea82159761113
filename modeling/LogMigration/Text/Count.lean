import LogMigration.Tally
import LogMigration.Text.Basic

/-!
# Spelled counts

A count is spelled with digits, with or without a plus before them, and stays below the limit.
-/

set_option autoImplicit false

namespace LogMigration

namespace Text

/-- The number that digits spell. -/
def digitsValue (ds : Text) : Nat := ds.foldl (fun v c => 10 * v + (c.toNat - '0'.toNat)) 0

/-- The count that a text spells: digits, with or without a plus. -/
def count? (s : Text) : Option Nat :=
  let ds := (dropPrefix? ['+'] s).getD s
  if ds ≠ [] && ds.all Char.isDigit then
    let n := digitsValue ds
    if n < countLimit then some n else none
  else none

/-- A spelled count is below the limit. -/
theorem lt_of_count?_eq_some {s : Text} {n : Nat} (h : count? s = some n) : n < countLimit := by
  simp only [count?] at h
  split at h
  · split at h
    · simp_all
    · simp at h
  · simp at h

end Text

end LogMigration
