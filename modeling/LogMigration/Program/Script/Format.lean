import LogMigration.Program.Script.Arithmetic
import LogMigration.Text.Utf8

/-!
# Printing in scripts

What the commands `echo` and `printf` print.

* `Script.echo` — arguments with blanks between them and a line end.
* `Script.format` — a format with arguments, used again as long as arguments are left.
-/

set_option autoImplicit false

namespace LogMigration

namespace Script

def isOctal (c : Char) : Bool := '0' ≤ c && c ≤ '7'

/-- The byte of up to three octal digits, and what follows them. -/
def octal (s : Text) : UInt8 × Text :=
  let ds := (s.take 3).takeWhile isOctal
  (UInt8.ofNat (ds.foldl (fun v c => 8 * v + (c.toNat - '0'.toNat)) 0), s.drop ds.length)

/-- What follows a backslash: the bytes it stands for and the rest.  An unknown escape keeps its
backslash. -/
def escape (s : Text) : Bytes × Text :=
  match s with
  | 'a' :: r => ([7], r)
  | 'b' :: r => ([8], r)
  | 'f' :: r => ([12], r)
  | 'n' :: r => ([10], r)
  | 'r' :: r => ([13], r)
  | 't' :: r => ([9], r)
  | 'v' :: r => ([11], r)
  | '\\' :: r => ([92], r)
  | c :: r => if isOctal c then let o := octal (c :: r); ([o.1], o.2) else ([92], s)
  | [] => ([92], [])

/-- A text with its escapes, and whether `\c` ended the output. -/
def escaped : Nat → Text → Bytes × Bool
  | 0, _ => ([], false)
  | fuel + 1, s =>
    match s with
    | [] => ([], false)
    | '\\' :: 'c' :: _ => ([], true)
    | '\\' :: rest =>
      let rest := match rest with
        | '0' :: d :: r => if isOctal d then d :: r else rest
        | _ => rest
      let e := escape rest
      let more := escaped fuel e.2
      (e.1 ++ more.1, more.2)
    | c :: rest =>
      let more := escaped fuel rest
      (String.utf8EncodeChar c ++ more.1, more.2)

def echo (arguments : List Text) : Bytes :=
  let (arguments, newline) := match arguments with
    | ['-', 'n'] :: rest => (rest, false)
    | _ => (arguments, true)
  let s := Text.joinWith [' '] arguments
  let e := escaped (s.length + 1) s
  if e.2 || !newline then e.1 else e.1 ++ [10]

/-! ## Formats -/

/-- How a value is laid out. -/
structure Layout where
  flags : List Char := []
  width : Nat := 0
  precision : Option Nat := none
  deriving DecidableEq, Repr

/-- The layout between a percent sign and the letter of a conversion, and what follows it. -/
def layout (s : Text) : Layout × Text :=
  let isFlag (c : Char) : Bool := c = '-' || c = '+' || c = ' ' || c = '#' || c = '0'
  let flags := s.takeWhile isFlag
  let s := s.dropWhile isFlag
  let width := (Arithmetic.number (s.takeWhile Char.isDigit)).toNat
  match s.dropWhile Char.isDigit with
  | '.' :: s =>
    (⟨flags, width, some (Arithmetic.number (s.takeWhile Char.isDigit)).toNat⟩,
      s.dropWhile Char.isDigit)
  | s => (⟨flags, width, none⟩, s)

/-- Bytes in a field of a width. -/
def Layout.pad (l : Layout) (bs : Bytes) : Bytes :=
  let gap := List.replicate (l.width - bs.length) (32 : UInt8)
  if l.flags.contains '-' then bs ++ gap else gap ++ bs

/-- A number with its sign or mark and its digits, in a field. -/
def Layout.number (l : Layout) (mark digits : Text) : Bytes :=
  let digits := match l.precision with
    | some p => List.replicate (p - digits.length) '0' ++ digits
    | none =>
      if l.flags.contains '0' && !l.flags.contains '-' then
        List.replicate (l.width - mark.length - digits.length) '0' ++ digits
      else digits
  l.pad (Utf8.encode (mark ++ digits))

def Layout.signed (l : Layout) (n : Int) : Bytes :=
  let mark := if n < 0 then ['-'] else if l.flags.contains '+' then ['+']
    else if l.flags.contains ' ' then [' '] else []
  l.number mark (Nat.toDigits 10 n.natAbs)

/-- A number without a sign in a field, in a base. -/
def Layout.unsigned (l : Layout) (base : Nat) (upper : Bool) (n : Int) : Bytes :=
  let value := (n.emod 18446744073709551616).toNat
  let ds := Nat.toDigits base value
  let mark := if !l.flags.contains '#' || value = 0 then []
    else if base = 16 then (if upper then ['0', 'X'] else ['0', 'x'])
    else if base = 8 then ['0'] else []
  l.number mark (if upper then ds.map Char.toUpper else ds)

/-- The number that an argument spells, and what is said about one that does not spell a number. -/
def formatNumber (argument : Text) : Int × Option Text :=
  match argument with
  | '"' :: c :: _ | '\x27' :: c :: _ => (c.toNat, none)
  | [] => (0, none)
  | _ =>
    let s := Text.trimStart argument
    let (sign, t) : Int × Text := match s with
      | '-' :: t => (-1, t)
      | '+' :: t => (1, t)
      | t => (1, t)
    let n := Arithmetic.numeral t
    if !(t.head?.any Char.isDigit) then (0, some (argument ++ ": expected numeric value".toList))
    else if n.2 ≠ [] then (sign * n.1, some (argument ++ ": not completely converted".toList))
    else (sign * n.1, none)

/-- What a format prints: the bytes, what is said about it, a status, and whether it ended early. -/
structure Printed where
  bytes : Bytes := []
  remarks : List Text := []
  status : Nat := 0
  ended : Bool := false

/-- What one print adds after another. -/
def Printed.append (a b : Printed) : Printed :=
  { bytes := a.bytes ++ b.bytes
    remarks := a.remarks ++ b.remarks
    status := max a.status b.status
    ended := a.ended || b.ended }

/-- One conversion: what it prints of an argument; nothing if there is no such conversion. -/
def convert? (l : Layout) (letter : Char) (argument : Text) : Option Printed :=
  let n := formatNumber argument
  let numeric (bytes : Bytes) : Option Printed :=
    some { bytes, remarks := n.2.toList, status := if n.2.isSome then 1 else 0 }
  match letter with
  | 's' =>
    let bytes := Utf8.encode argument
    some { bytes := l.pad (match l.precision with
      | some p => bytes.take p
      | none => bytes) }
  | 'b' =>
    let e := escaped (argument.length + 1) argument
    some { bytes := l.pad e.1, ended := e.2 }
  | 'c' => some { bytes := l.pad [(Utf8.encode argument).headD 0] }
  | 'd' | 'i' => numeric (l.signed n.1)
  | 'u' => numeric (l.unsigned 10 false n.1)
  | 'o' => numeric (l.unsigned 8 false n.1)
  | 'x' => numeric (l.unsigned 16 false n.1)
  | 'X' => numeric (l.unsigned 16 true n.1)
  | _ => none

/-- A format once over, with the arguments it takes: what it prints, and the arguments left. -/
def formatOnce : Nat → Text → List Text → Printed × List Text
  | 0, _, arguments => ({}, arguments)
  | fuel + 1, s, arguments =>
    let onward (p : Printed) (rest : Text) (arguments : List Text) : Printed × List Text :=
      if p.ended then (p, [])
      else
        let more := formatOnce fuel rest arguments
        (p.append more.1, more.2)
    match s with
    | [] => ({}, arguments)
    | '\\' :: rest => let e := escape rest; onward { bytes := e.1 } e.2 arguments
    | '%' :: '%' :: rest => onward { bytes := [37] } rest arguments
    | '%' :: rest =>
      let (l, after) := layout rest
      match after with
      | letter :: after =>
        match convert? l letter (arguments.headD []) with
        | some p => onward p after (arguments.drop 1)
        | none =>
          let directive := '%' :: rest.take (rest.length - after.length)
          let remark := directive ++ ": invalid directive".toList
          ({ remarks := [remark], status := 2, ended := true }, [])
      | [] =>
        ({ remarks := ["missing format character".toList], status := 2, ended := true }, [])
    | c :: rest => onward { bytes := String.utf8EncodeChar c } rest arguments

/-- What `printf` prints: the format, again and again while arguments are left. -/
def format : Nat → Text → List Text → Printed
  | 0, _, _ => {}
  | fuel + 1, s, arguments =>
    let once := formatOnce (s.length + 1) s arguments
    if once.2.length < arguments.length && once.2 ≠ [] then once.1.append (format fuel s once.2)
    else once.1

end Script

end LogMigration
