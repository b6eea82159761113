import LogMigration.Toml.DateTime
import LogMigration.Toml.Number
import LogMigration.Toml.Quoted

/-!
# Configuration documents

A document is a sequence of lines: `key = value` pairs and table headers.  Pairs belong to the table
of the last header.

* `Document.parse?` — the table that a text stands for, or nothing if the text is no document.
-/

set_option autoImplicit false

namespace LogMigration

namespace Toml

namespace Document

open Reader

/-- Arrays and tables in braces nest less deep than this, and a dotted key has fewer parts. -/
def depthLimit : Nat := 80

/-- Whether a character may stand in a key without quotes. -/
def isKeyChar (c : Char) : Bool := c.isAlphanum || c = '_' || c = '-'

/-- One part of a key, with blanks around it. -/
def keyPart : Reader Text := do
  blanks
  let part ← match ← peek? with
    | some '"' | some '\x27' => Quoted.short
    | _ => run1 isKeyChar
  blanks
  return part

/-- The parts of a dotted key. -/
def keyParts : Nat → Reader (List Text)
  | 0 => fail
  | fuel + 1 => do
    let part ← keyPart
    if ← optional ['.'] then return part :: (← keyParts fuel) else return [part]

def key : Reader (List Text) := keyParts (depthLimit - 1)

def scalar : Reader Value := do
  match ← peek? with
  | some '"' | some '\x27' => return .string (← Quoted.any)
  | some 't' => literal "true".toList; return .boolean true
  | some 'f' => literal "false".toList; return .boolean false
  | some _ => orElse DateTime.dateTime (orElse Number.float Number.integer)
  | none => fail

/-- The items of an array up to its closing bracket; a comma may follow the last one. -/
def items (item : Reader Value) : Nat → Reader (List Value)
  | 0 => fail
  | fuel + 1 => do
    blankLines
    if (← peek?) = some ']' then return []
    let v ← item
    blankLines
    if ← optional [','] then return v :: (← items item fuel) else return [v]

def array (item : Reader Value) : Reader Value := do
  literal ['[']
  let vs ← items item (← size)
  literal [']']
  return .array vs

/-- A dotted key with its value: the path, the last part, and the value. -/
structure Pair where
  path : List Text
  key : Text
  value : Value

/-- A key with its value. -/
def pair (value : Reader Value) : Reader Pair := do
  let parts ← key
  literal ['=']
  blanks
  let v ← value
  match parts.getLast? with
  | some last => return ⟨parts.dropLast, last, v⟩
  | none => fail

/-- Puts pairs into a table. -/
def fill? (pairs : List Pair) (es : Entries) : Option Entries :=
  pairs.foldlM (fun es p => Entries.put? p.path p.key p.value es) es

/-- The pairs of a table in braces; no comma may follow the last one. -/
def inlinePairs (value : Reader Value) : Nat → Reader (List Pair)
  | 0 => fail
  | fuel + 1 => do
    let p ← pair value
    blanks
    if ← optional [','] then return p :: (← inlinePairs value fuel) else return [p]

def inlineTable (value : Reader Value) : Reader Value := do
  literal ['\x7b']
  blanks
  let pairs ← if (← peek?) = some '\x7d' then pure [] else do inlinePairs value (← size)
  literal ['\x7d']
  match fill? pairs [] with
  | some es => return .table .inline es
  | none => fail

/-- A value that nests at most `depth` deep. -/
def value : Nat → Reader Value
  | 0 => scalar
  | depth + 1 => do
    match ← peek? with
    | some '[' => array (value depth)
    | some '\x7b' => inlineTable (value depth)
    | _ => scalar

/-- A table header with the pairs below it.  The first section of a document has no header. -/
structure Section where
  /-- The path of the header, and whether it is a repeated one. -/
  header : Option (Bool × List Text)
  pairs : List Pair

/-- A header up to the end of its line: its path, and whether it is a repeated one. -/
def header : Reader (Bool × List Text) := do
  literal ['[']
  let repeated ← optional ['[']
  let path ← key
  literal [']']
  if repeated then literal [']']
  endOfLine
  return (repeated, path)

/-- The lines of a document, divided at the headers; `fuel` bounds the lines. -/
def sections : Nat → Reader (List Section)
  | 0 => fail
  | fuel + 1 => do
    blanks
    match ← peek? with
    | none => return [⟨none, []⟩]
    | some '#' | some '\n' | some '\r' => do
      comment
      match ← peek? with
      | none => return [⟨none, []⟩]
      | some _ => do
        newline
        sections fuel
    | some '[' => do
      let h ← header
      match ← sections fuel with
      | first :: others => return ⟨none, []⟩ :: { first with header := some h } :: others
      | [] => fail
    | some _ => do
      let p ← pair (value (depthLimit - 1))
      endOfLine
      match ← sections fuel with
      | first :: others => return { first with pairs := p :: first.pairs } :: others
      | [] => fail

/-- Adds a section to a document.  A table has one header at most; a table that was only the parent
of others may still get its own. -/
def addSection? (root : Entries) (s : Section) : Option Entries :=
  match s.header with
  | none => fill? s.pairs root
  | some (false, path) =>
    Entries.alter? (fun
      | none => (fill? s.pairs []).map (.table .header)
      | some (.table .parent es) => (fill? s.pairs es).map (.table .header)
      | some _ => none) path root
  | some (true, path) =>
    Entries.alter? (fun
      | none => (fill? s.pairs []).map fun es => .tables [es]
      | some (.tables ts) => (fill? s.pairs []).map fun es => .tables (ts ++ [es])
      | some _ => none) path root

/-- The table that a text stands for.  A byte order mark at the start is skipped. -/
def parse? (s : Text) : Option Entries :=
  let s := match s with
    | '\ufeff' :: r => r
    | _ => s
  let size := s.length + 1
  match sections size size s with
  | some (ss, []) => ss.foldlM addSection? []
  | _ => none

end Document

end Toml

end LogMigration
