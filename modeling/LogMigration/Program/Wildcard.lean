import LogMigration.Text.Rests
import LogMigration.Text.Utf8

/-!
# File name patterns

The patterns of a file search, byte by byte: `*` is any run of bytes, `?` is one byte, `[…]` and
`[!…]` are sets, and a backslash takes the next byte as it is.  A bracket that is not closed stands
for itself.
-/

set_option autoImplicit false

namespace LogMigration

namespace Wildcard

/-- A test on one byte. -/
inductive ByteClass where
  | one (b : UInt8)
  | span (low high : UInt8)
  | named (name : Bytes)
  deriving DecidableEq, Repr

/-- What a pattern is made of. -/
inductive Token where
  | any
  | star
  | set (negated : Bool) (classes : List ByteClass)
  /-- A pattern that nothing matches. -/
  | never
  deriving DecidableEq, Repr

/-- The byte of an ASCII character. -/
def byte (c : Char) : UInt8 := UInt8.ofNat c.toNat

/-- Whether a byte belongs to a class with a name. -/
def inNamed (name : Bytes) (b : UInt8) : Bool :=
  let c := Char.ofNat b.toNat
  let upper := 'A' ≤ c && c ≤ 'Z'
  let lower := 'a' ≤ c && c ≤ 'z'
  let digit := '0' ≤ c && c ≤ '9'
  let graph := 0x21 ≤ b && b ≤ 0x7E
  let is (s : String) : Bool := name = Utf8.encode s.toList
  (is "alpha" && (upper || lower)) || (is "digit" && digit) || (is "upper" && upper)
    || (is "lower" && lower) || (is "alnum" && (upper || lower || digit))
    || (is "space" && (c = ' ' || (0x09 ≤ b && b ≤ 0x0D)))
    || (is "blank" && (c = ' ' || c = '\t'))
    || (is "punct" && graph && !(upper || lower || digit)) || (is "graph" && graph)
    || (is "print" && (graph || c = ' ')) || (is "cntrl" && (b < 0x20 || b = 0x7F))
    || (is "xdigit" && (digit || ('a' ≤ c && c ≤ 'f') || ('A' ≤ c && c ≤ 'F')))

/-- Whether a byte belongs to a class. -/
def ByteClass.contains : ByteClass → UInt8 → Bool
  | .one x, b => b = x
  | .span low high, b => low ≤ b && b ≤ high
  | .named name, b => inNamed name b

/-- The name of a class after `[:`, and what follows `:]`. -/
def className? (s : Bytes) : Option (Bytes × Bytes) :=
  let name := s.takeWhile (· ≠ byte ':')
  match s.dropWhile (· ≠ byte ':') with
  | colon :: bracket :: rest =>
    if colon = byte ':' && bracket = byte ']' then some (name, rest) else none
  | _ => none

/-- One byte of a set, with a backslash in front of it dropped. -/
def setByte? : Bytes → Option (UInt8 × Bytes)
  | [] => none
  | b :: rest =>
    if b = byte '\\' then
      match rest with
      | [] => none
      | c :: rest => some (c, rest)
    else some (b, rest)

/-- The classes of a set up to its closing bracket, and what follows it.  A bracket in first place
belongs to the set. -/
def setBody : Nat → Bool → Bytes → Option (List ByteClass × Bytes)
  | 0, _, _ => none
  | fuel + 1, isFirst, s =>
    match s with
    | [] => none
    | b :: rest =>
      if b = byte ']' && !isFirst then some ([], rest)
      else
        let named := if b = byte '[' && rest.head? = some (byte ':') then className? (rest.drop 1)
          else none
        match named with
        | some (name, rest) =>
          (setBody fuel false rest).map fun (cs, rest) => (.named name :: cs, rest)
        | none =>
          match setByte? s with
          | none => none
          | some (low, rest) =>
            match rest with
            | dash :: end_ :: _ =>
              if dash = byte '-' && end_ ≠ byte ']' then
                match setByte? (rest.drop 1) with
                | none => none
                | some (high, rest) =>
                  (setBody fuel false rest).map fun (cs, rest) => (.span low high :: cs, rest)
              else (setBody fuel false rest).map fun (cs, rest) => (.one low :: cs, rest)
            | _ => (setBody fuel false rest).map fun (cs, rest) => (.one low :: cs, rest)

/-- The set after an opening bracket, and what follows it. -/
def set? (s : Bytes) : Option (Token × Bytes) :=
  match s with
  | b :: rest =>
    if b = byte '!' || b = byte '^' then
      (setBody (s.length + 1) true rest).map fun (cs, rest) => (.set true cs, rest)
    else (setBody (s.length + 1) true s).map fun (cs, rest) => (.set false cs, rest)
  | [] => none

/-- The tokens of a pattern. -/
def tokens : Nat → Bytes → List Token
  | 0, _ => []
  | _ + 1, [] => []
  | fuel + 1, b :: rest =>
    if b = byte '*' then .star :: tokens fuel rest
    else if b = byte '?' then .any :: tokens fuel rest
    else if b = byte '\\' then
      match rest with
      | [] => [.never]
      | c :: rest => .set false [.one c] :: tokens fuel rest
    else if b = byte '[' then
      match set? rest with
      | some (token, rest) => token :: tokens fuel rest
      | none => .set false [.one b] :: tokens fuel rest
    else .set false [.one b] :: tokens fuel rest

/-- Whether a token for a single byte accepts it. -/
def Token.accepts : Token → UInt8 → Bool
  | .any, _ => true
  | .set negated classes, b => classes.any (·.contains b) != negated
  | .star, _ | .never, _ => false

/-- Whether bytes fit a list of tokens. -/
def fitsFrom : List Token → Bytes → Bool
  | [], bs => bs.isEmpty
  | .star :: ts, bs => (Rests.all bs).any (fitsFrom ts)
  | t :: ts, bs => Rests.startsWith t.accepts (fitsFrom ts) bs

/-- Whether the rests of bytes fit a list of tokens, all of the bytes first. -/
def fitRow : List Token → Bytes → List Bool
  | [], bs => Rests.ended bs
  | .star :: ts, bs => Rests.anywhere (fitRow ts bs)
  | t :: ts, bs => Rests.step t.accepts bs (fitRow ts bs)

theorem fitRow_eq_row (ts : List Token) (bs : Bytes) :
    fitRow ts bs = Rests.row (fitsFrom ts) bs := by
  induction ts with
  | nil => exact Rests.ended_eq_row bs
  | cons t ts ih =>
    cases t with
    | star =>
      rw [fitRow, ih, Rests.anywhere_row]
      rfl
    | any | set | never =>
      rw [fitRow, ih, Rests.step_row]
      · rfl
      all_goals simp

/-- The tokens that a pattern stands for. -/
def ofPattern (pattern : Text) : List Token :=
  let p := Utf8.encode pattern
  tokens (p.length + 1) p

/-- Whether a name fits a pattern. -/
def fits (pattern name : Text) : Bool :=
  (fitRow (ofPattern pattern) (Utf8.encode name)).headD false

/-- A name fits a pattern when its bytes fit the tokens. -/
theorem fits_eq_fitsFrom (pattern name : Text) :
    fits pattern name = fitsFrom (ofPattern pattern) (Utf8.encode name) := by
  rw [fits, fitRow_eq_row, Rests.headD_row]

end Wildcard

end LogMigration
