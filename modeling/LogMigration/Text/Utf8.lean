import LogMigration.Text.Basic

/-!
# Texts as bytes

Files hold bytes; a text is written as UTF-8.  Reading goes byte by byte through a machine that
knows what the bytes so far are owed.

* `Utf8.encode` — the bytes of a text.
* `Utf8.decodeLossy` — the text of any bytes: each longest beginning of a character that breaks off
  reads as U+FFFD.
* `Utf8.decode` — the text of bytes that are UTF-8, or where they stop being so.
-/

set_option autoImplicit false

namespace LogMigration

/-- The content of a file. -/
abbrev Bytes := List UInt8

namespace Utf8

def encode (s : Text) : Bytes := s.flatMap String.utf8EncodeChar

theorem encode_cons (c : Char) (s : Text) : encode (c :: s) = String.utf8EncodeChar c ++ encode s :=
  List.flatMap_cons ..

theorem encode_append (s t : Text) : encode (s ++ t) = encode s ++ encode t :=
  List.flatMap_append ..

/-- A character of several bytes that has begun: the bytes still owed, the range that the next one
has to be in, and the code so far. -/
structure Pending where
  owed : Nat
  low : UInt8
  high : UInt8
  code : Nat
  deriving DecidableEq, Repr

/-- What a first byte announces, if it begins a character of several bytes. -/
def lead? (b : UInt8) : Option Pending :=
  if 0xC2 ≤ b && b ≤ 0xDF then some ⟨1, 0x80, 0xBF, b.toNat - 0xC0⟩
  else if b = 0xE0 then some ⟨2, 0xA0, 0xBF, 0⟩
  else if b = 0xED then some ⟨2, 0x80, 0x9F, 0xD⟩
  else if 0xE1 ≤ b && b ≤ 0xEF then some ⟨2, 0x80, 0xBF, b.toNat - 0xE0⟩
  else if b = 0xF0 then some ⟨3, 0x90, 0xBF, 0⟩
  else if 0xF1 ≤ b && b ≤ 0xF3 then some ⟨3, 0x80, 0xBF, b.toNat - 0xF0⟩
  else if b = 0xF4 then some ⟨3, 0x80, 0x8F, 4⟩
  else none

/-- What one byte does to the machine. -/
inductive Step where
  /-- A character is complete. -/
  | char (c : Char)
  /-- A character goes on. -/
  | more (p : Pending)
  /-- The byte cannot stand here. -/
  | refuse
  deriving DecidableEq, Repr

/-- A byte between characters. -/
def first (b : UInt8) : Step :=
  if b < 0x80 then .char (Char.ofNat b.toNat)
  else
    match lead? b with
    | some p => .more p
    | none => .refuse

/-- A byte inside a character. -/
def next (p : Pending) (b : UInt8) : Step :=
  if p.low ≤ b && b ≤ p.high then
    let code := 64 * p.code + (b.toNat - 0x80)
    if p.owed ≤ 1 then .char (Char.ofNat code) else .more ⟨p.owed - 1, 0x80, 0xBF, code⟩
  else .refuse

/-! ## Reading anything -/

/-- The character that stands for bytes that are not UTF-8. -/
def replacement : Char := '\ufffd'

/-- What a byte between characters reads as, and what is pending after it. -/
def readFirst (b : UInt8) : Text × Option Pending :=
  match first b with
  | .char c => ([c], none)
  | .more p => ([], some p)
  | .refuse => ([replacement], none)

/-- What a byte reads as, and what is pending after it.  A character that breaks off is replaced,
and the byte that broke it is read anew. -/
def readByte (pending : Option Pending) (b : UInt8) : Text × Option Pending :=
  match pending with
  | none => readFirst b
  | some p =>
    match next p b with
    | .char c => ([c], none)
    | .more p => ([], some p)
    | .refuse => (replacement :: (readFirst b).1, (readFirst b).2)

/-- Reads the rest of the bytes, given what is pending. -/
def decodeLossyFrom : Option Pending → Bytes → Text
  | none, [] => []
  | some _, [] => [replacement]
  | pending, b :: bs => (readByte pending b).1 ++ decodeLossyFrom (readByte pending b).2 bs

/-- The text of any bytes. -/
def decodeLossy (bs : Bytes) : Text := decodeLossyFrom none bs

/-! ## Reading UTF-8 -/

/-- Where bytes stop being UTF-8: the index of the character that breaks off, and the number of its
bytes unless it is only cut short by the end. -/
structure Error where
  index : Nat
  length : Option Nat
  deriving DecidableEq, Repr

def Error.message (e : Error) : String :=
  match e.length with
  | some n => "invalid utf-8 sequence of " ++ toString n ++ " bytes from index " ++ toString e.index
  | none => "incomplete utf-8 byte sequence from index " ++ toString e.index

/-- Reads the rest of the bytes, given the index where the last character began, its bytes so far
and what is pending. -/
def decodeFrom (start taken : Nat) : Option Pending → Bytes → Except Error Text
  | none, [] => .ok []
  | some _, [] => .error ⟨start, none⟩
  | pending, b :: bs =>
    let step := match pending with
      | none => first b
      | some p => next p b
    match step with
    | .char c => (decodeFrom (start + taken + 1) 0 none bs).map (c :: ·)
    | .more p => decodeFrom start (taken + 1) (some p) bs
    | .refuse => .error ⟨start, some (max taken 1)⟩

/-- The text of bytes that are UTF-8. -/
def decode (bs : Bytes) : Except Error Text := decodeFrom 0 0 none bs

end Utf8

end LogMigration
