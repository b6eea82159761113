import LogMigration.Program.Script.Word

/-!
# Arithmetic in scripts

The value of an arithmetic expression: integers of 64 bits, names of variables, the operators of
arithmetic, comparison and logic, a choice, and assignments.

* `Script.Arithmetic.eval` — the value of an expression, and the variables it sets.
-/

set_option autoImplicit false

namespace LogMigration

namespace Script

namespace Arithmetic

/-- Why an expression has no value. -/
inductive Fault where
  | noOperand
  | leftOver
  | noColon
  | noBracket
  | divisionByZero
  | badNumber (s : Text)
  deriving DecidableEq, Repr

def Fault.message (expression : Text) : Fault → Text
  | .badNumber s => "Illegal number: ".toList ++ s
  | f =>
    let what := match f with
      | .noOperand => "expecting primary"
      | .noColon => "expecting ':'"
      | .noBracket => "expecting ')'"
      | .divisionByZero => "division by zero"
      | _ => "expecting EOF"
    ("arithmetic expression: " ++ what ++ ": \"").toList ++ expression ++ ['"']

/-- The part of an integer that 64 bits hold. -/
def wrap (n : Int) : Int := Int.bmod n 18446744073709551616

def number (ds : Text) : Int := (ds.foldl (fun v c => 10 * v + (c.toNat - '0'.toNat)) 0 : Nat)

def digitValue (c : Char) : Nat :=
  if c.isDigit then c.toNat - '0'.toNat
  else if 'a' ≤ c && c ≤ 'f' then c.toNat - 'a'.toNat + 10
  else if 'A' ≤ c && c ≤ 'F' then c.toNat - 'A'.toNat + 10
  else 16

/-- The value of the digits of a base at the start of a text, and what follows them. -/
def digits (base : Nat) (s : Text) : Int × Text :=
  let isDigit (c : Char) : Bool := digitValue c < base
  (((s.takeWhile isDigit).foldl (fun v c => base * v + digitValue c) 0 : Nat), s.dropWhile isDigit)

/-- A number at the start of a text, and what follows it.  It is hexadecimal after `0x` and octal
after `0`. -/
def numeral (s : Text) : Int × Text :=
  match s with
  | '0' :: 'x' :: rest | '0' :: 'X' :: rest => digits 16 rest
  | '0' :: _ => digits 8 s
  | _ => digits 10 s

/-- The integer that the value of a variable spells.  An empty value counts as zero. -/
def integer? (s : Text) : Option Int :=
  let unsigned (t : Text) : Option Int :=
    match t with
    | c :: _ =>
      let n := numeral t
      if c.isDigit && n.2 = [] then some n.1 else none
    | [] => none
  match Text.trim s with
  | [] => some 0
  | '-' :: t => (unsigned t).map (- ·)
  | '+' :: t => unsigned t
  | t => unsigned t

def ofBool (b : Bool) : Int := if b then 1 else 0

/-- The bits of an integer, and the integer that they are. -/
def bits (f : Nat → Nat → Nat) (a b : Int) : Int :=
  let modulus : Int := 18446744073709551616
  wrap (f (a.emod modulus).toNat (b.emod modulus).toNat)

def operate (operator : String) (a b : Int) : Except Fault Int :=
  match operator with
  | "||" => .ok (ofBool (a ≠ 0 || b ≠ 0))
  | "&&" => .ok (ofBool (a ≠ 0 && b ≠ 0))
  | "|" => .ok (bits Nat.lor a b)
  | "^" => .ok (bits Nat.xor a b)
  | "&" => .ok (bits Nat.land a b)
  | "==" => .ok (ofBool (a = b))
  | "!=" => .ok (ofBool (a ≠ b))
  | "<=" => .ok (ofBool (a ≤ b))
  | ">=" => .ok (ofBool (b ≤ a))
  | "<<" => .ok (wrap (a * (Nat.pow 2 (b.emod 64).toNat : Nat)))
  | ">>" => .ok (Int.fdiv a (Nat.pow 2 (b.emod 64).toNat : Nat))
  | "<" => .ok (ofBool (a < b))
  | ">" => .ok (ofBool (b < a))
  | "+" => .ok (wrap (a + b))
  | "-" => .ok (wrap (a - b))
  | "*" => .ok (wrap (a * b))
  | "/" => if b = 0 then .error .divisionByZero else .ok (wrap (a.tdiv b))
  | "%" => if b = 0 then .error .divisionByZero else .ok (a.tmod b)
  | _ => .error .leftOver

/-- The operators between two operands, and how tightly they bind.  Longer ones come first. -/
def operators : List (String × Nat) :=
  [("||", 1), ("&&", 2), ("==", 6), ("!=", 6), ("<=", 7), (">=", 7), ("<<", 8), (">>", 8),
    ("|", 3), ("^", 4), ("&", 5), ("<", 7), (">", 7), ("+", 9), ("-", 9), ("*", 10), ("/", 10),
    ("%", 10)]

/-- The operators that may stand before the equals sign of an assignment. -/
def updates : List String := ["<<", ">>", "+", "-", "*", "/", "%", "|", "^", "&"]

/-- The operator at the start of a text, and what follows it. -/
def operatorAt? (s : Text) : Option ((String × Nat) × Text) :=
  operators.findSome? fun o => (Text.dropPrefix? o.1.toList s).map fun r => (o, r)

/-- The assignment mark at the start of a text: the operator before its equals sign, if there is
one, and what follows. -/
def assignmentAt? (s : Text) : Option (Option String × Text) :=
  match s with
  | '=' :: '=' :: _ => none
  | '=' :: rest => some (none, rest)
  | _ => updates.findSome? fun o =>
    (Text.dropPrefix? (o.toList ++ ['=']) s).map fun r => (some o, r)

/-- The variables that an expression has set, the latest first. -/
abbrev Settings := List (Text × Int)

/-- What is read next: a whole expression, a choice, an operand, or operators that bind at least as
tightly as a level. -/
inductive Goal where
  | whole
  | operand
  | expression (level : Nat)
  | operators (level : Nat) (left : Int)
  deriving DecidableEq, Repr

/-- The value of a variable, given what has been set and the values from before. -/
def lookUp (value : Text → Text) (set : Settings) (name : Text) : Except Fault Int :=
  match set.find? fun v => v.1 = name with
  | some v => .ok v.2
  | none =>
    match integer? (value name) with
    | some n => .ok n
    | none => .error (.badNumber (value name))

/-- The value of an expression at the start of a text, what it has set, and what follows it. -/
def evalGoal (value : Text → Text) : Nat → Goal → Settings → Text →
    Except Fault (Int × Settings × Text)
  | 0, _, _, _ => .error .noOperand
  | fuel + 1, .whole, set, s => do
    let (test, set, rest) ← evalGoal value fuel (.expression 1) set s
    match Text.trimStart rest with
    | '?' :: rest => do
      let (yes, set, rest) ← evalGoal value fuel .whole set rest
      match Text.trimStart rest with
      | ':' :: rest => do
        let (no, set, rest) ← evalGoal value fuel .whole set rest
        return (if test ≠ 0 then yes else no, set, rest)
      | _ => .error .noColon
    | rest => return (test, set, rest)
  | fuel + 1, .operand, set, s =>
    match Text.trimStart s with
    | '-' :: rest => do
      let (n, set, rest) ← evalGoal value fuel .operand set rest
      return (wrap (-n), set, rest)
    | '+' :: rest => evalGoal value fuel .operand set rest
    | '!' :: rest => do
      let (n, set, rest) ← evalGoal value fuel .operand set rest
      return (ofBool (n = 0), set, rest)
    | '~' :: rest => do
      let (n, set, rest) ← evalGoal value fuel .operand set rest
      return (-n - 1, set, rest)
    | '(' :: rest => do
      let (n, set, rest) ← evalGoal value fuel .whole set rest
      match Text.trimStart rest with
      | ')' :: rest => return (n, set, rest)
      | _ => .error .noBracket
    | c :: rest =>
      if c.isDigit then
        let n := numeral (c :: rest)
        .ok (n.1, set, n.2)
      else if isNameStart c then
        let name := c :: rest.takeWhile isNameChar
        let rest := rest.dropWhile isNameChar
        match assignmentAt? (Text.trimStart rest) with
        | none => do return (← lookUp value set name, set, rest)
        | some (operator, rest) => do
          let (n, set, rest) ← evalGoal value fuel .whole set rest
          let n ← match operator with
            | none => pure n
            | some o => do operate o (← lookUp value set name) n
          return (n, (name, n) :: set, rest)
      else .error .noOperand
    | [] => .error .noOperand
  | fuel + 1, .expression level, set, s => do
    let (left, set, rest) ← evalGoal value fuel .operand set s
    evalGoal value fuel (.operators level left) set rest
  | fuel + 1, .operators level left, set, s =>
    let s := Text.trimStart s
    match operatorAt? s with
    | some ((operator, binding), rest) =>
      if level ≤ binding then do
        let (right, set, rest) ← evalGoal value fuel (.expression (binding + 1)) set rest
        evalGoal value fuel (.operators level (← operate operator left right)) set rest
      else .ok (left, set, s)
    | none => .ok (left, set, s)

/-- The value of an expression and the variables it sets, given the values of variables. -/
def eval (value : Text → Text) (s : Text) : Except Fault (Int × Settings) :=
  if Text.trim s = [] then .ok (0, [])
  else do
    let (n, set, rest) ← evalGoal value (4 * s.length + 4) .whole [] s
    if Text.trim rest = [] then return (n, set) else .error .leftOver

end Arithmetic

end Script

end LogMigration
