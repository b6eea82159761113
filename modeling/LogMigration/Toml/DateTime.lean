import LogMigration.Toml.Value
import LogMigration.Toml.Reader

/-!
# Dates and times of a configuration document

A date, a time of day, or both with an optional offset.  The day has to exist in its month, and a
minute may have a leap second.
-/

set_option autoImplicit false

namespace LogMigration

namespace Toml

namespace DateTime

open Reader

/-- A number of exactly `width` digits that lies between two bounds. -/
def field (width low high : Nat) : Reader Nat := do
  let ds ← exactly width Char.isDigit
  let n := ds.foldl (fun v c => 10 * v + (c.toNat - '0'.toNat)) 0
  if low ≤ n && n ≤ high then return n else fail

/-- The days of a month. -/
def daysIn (year month : Nat) : Nat :=
  let leap := year % 4 = 0 && (year % 100 ≠ 0 || year % 400 = 0)
  if month = 2 then (if leap then 29 else 28)
  else if month = 4 || month = 6 || month = 9 || month = 11 then 30
  else 31

def date : Reader Unit := do
  let year ← field 4 0 9999
  literal ['-']
  let month ← field 2 1 12
  literal ['-']
  let _ ← field 2 1 (daysIn year month)

def time : Reader Unit := do
  let _ ← field 2 0 23
  literal [':']
  let _ ← field 2 0 59
  literal [':']
  let _ ← field 2 0 60
  if ← optional ['.'] then
    let _ ← run1 Char.isDigit

def offset : Reader Unit := fun n s =>
  match s with
  | 'Z' :: r | 'z' :: r => some ((), r)
  | '+' :: r | '-' :: r =>
    (do let _ ← field 2 0 23
        literal [':']
        let _ ← field 2 0 59 : Reader Unit) n r
  | _ => none

/-- The mark between a date and a time. -/
def mark : Reader Unit := fun _ s =>
  match s with
  | 'T' :: r | 't' :: r | ' ' :: r => some ((), r)
  | _ => none

/-- A date with or without a time, or a time alone. -/
def moment : Reader Unit :=
  orElse
    (do date
        let _ ← attempt (do
          mark
          time
          let _ ← attempt offset))
    time

/-- A date, a time or both. -/
def dateTime : Reader Value := do
  let (spelling, ()) ← spelled moment
  return .dateTime spelling

end DateTime

end Toml

end LogMigration
