import LogMigration.Toml.Value
import LogMigration.Toml.Reader

/-!
# Numbers of a configuration document

Integers are decimal with an optional sign, or hexadecimal, octal or binary with a mark; they have to
fit a signed word of 64 bits.  Numbers with a fraction or an exponent must not be too large for a
binary number of 64 bits.  An underscore may stand between two digits.
-/

set_option autoImplicit false

namespace LogMigration

namespace Toml

namespace Number

open Reader

/-- Digits with single underscores between them, without the underscores. -/
def digits (isDigit : Char → Bool) : Nat → Reader Text
  | 0 => fail
  | fuel + 1 => do
    let first ← run1 isDigit
    if ← optional ['_'] then return first ++ (← digits isDigit fuel) else return first

/-- Digits with single underscores between them. -/
def digitRun (isDigit : Char → Bool) : Reader Text := do digits isDigit (← size)

/-- The value of digits in a base, at most sixteen. -/
def valueOf (base : Nat) (ds : Text) : Nat :=
  ds.foldl (fun v c => base * v + (if c.isDigit then c.toNat - '0'.toNat
    else if 'a' ≤ c then c.toNat - 'a'.toNat + 10 else c.toNat - 'A'.toNat + 10)) 0

def sign : Reader Bool := do
  if ← optional ['-'] then return true
  let _ ← optional ['+']
  return false

/-- A decimal integer: its sign and its digits.  A leading zero stands alone. -/
def decimal : Reader (Bool × Text) := do
  let negative ← sign
  match ← peek? with
  | some '0' => do
    literal ['0']
    return (negative, ['0'])
  | _ => return (negative, ← digitRun Char.isDigit)

/-- The integers of a signed word of 64 bits. -/
def fits (n : Int) : Bool := -9223372036854775808 ≤ n && n ≤ 9223372036854775807

def integer : Reader Value := do
  let marked (mark : String) (base : Nat) (isDigit : Char → Bool) : Reader Int := do
    literal mark.toList
    return (valueOf base (← digitRun isDigit) : Nat)
  let isHex (c : Char) : Bool := c.isDigit || ('a' ≤ c && c ≤ 'f') || ('A' ≤ c && c ≤ 'F')
  let plain : Reader Int := do
    let (negative, ds) ← decimal
    let n : Int := (valueOf 10 ds : Nat)
    return if negative then -n else n
  let value ← match (← rest).take 2 with
    | ['0', 'x'] => marked "0x" 16 isHex
    | ['0', 'o'] => marked "0o" 8 fun c => '0' ≤ c && c ≤ '7'
    | ['0', 'b'] => marked "0b" 2 fun c => c = '0' || c = '1'
    | _ => plain
  if fits value then return .integer value else fail

/-- Whether the decimal number `ds · 10 ^ e` is finite as a binary number of 64 bits: below the
midpoint between the largest one and the next power of two. -/
def isFinite (ds : Text) (e : Int) : Bool :=
  let significant := ds.dropWhile (· = '0')
  if significant = [] then true
  else
    let magnitude : Int := significant.length + e
    if magnitude > 310 then false
    else if magnitude < 300 then true
    else
      let m := valueOf 10 significant
      let bound := Nat.pow 2 1024 - Nat.pow 2 970
      if 0 ≤ e then decide (m * Nat.pow 10 e.toNat < bound)
      else decide (m < bound * Nat.pow 10 (-e).toNat)

def exponent : Reader Int := do
  orElse (literal ['e']) (literal ['E'])
  let negative ← sign
  let n : Int := (valueOf 10 (← digitRun Char.isDigit) : Nat)
  return if negative then -n else n

/-- An infinity or a value that is no number. -/
def special : Reader Unit := do
  let _ ← sign
  orElse (literal "inf".toList) (literal "nan".toList)

/-- A number with a fraction, an exponent or both. -/
def fractional : Reader Bool := do
  let (negative, whole) ← decimal
  match ← peek? with
  | some '.' => do
    literal ['.']
    let fraction ← digitRun Char.isDigit
    let e ← match ← peek? with
      | some 'e' | some 'E' => exponent
      | _ => pure 0
    return negative || isFinite (whole ++ fraction) (e - fraction.length)
  | some 'e' | some 'E' => return negative || isFinite whole (← exponent)
  | _ => fail

/-- A number that is no integer.  A number that is too large is refused; a negative one is not. -/
def float : Reader Value := do
  match ← attempt (spelled fractional) with
  | some (spelling, true) => return .float spelling
  | some (_, false) => fail
  | none => do
    let (spelling, ()) ← spelled special
    return .float spelling

end Number

end Toml

end LogMigration
