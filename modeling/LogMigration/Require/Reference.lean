import LogMigration.Text.WhiteSpace

/-!
# References to the logger module

A text refers to a module when it calls `require` with one quoted argument that names the module,
behind any number of `./` and `../` and with or without the ending `.js`.

* `Reference.inText` — whether such a call stands somewhere in a text.
-/

set_option autoImplicit false

namespace LogMigration

namespace Reference

/-- The end of a reference after the module's name: an optional `.js`, the quote, and the closing
bracket behind white space. -/
def closes (quote : Char) (s : Text) : Bool :=
  let bracket (t : Text) : Bool :=
    match Text.dropPrefix? [quote] t with
    | some r => Text.startsWith [')'] (Text.trimStart r)
    | none => false
  bracket s || (match Text.dropPrefix? ".js".toList s with
    | some r => bracket r
    | none => false)

/-- Whether the text begins with the module's name and the end of a reference. -/
def named (module : Text) (quote : Char) (s : Text) : Bool :=
  match Text.dropPrefix? module s with
  | some r => closes quote r
  | none => false

/-- Whether the text begins with `./` and `../` segments, the module's name and the end of a
reference.  The name itself may begin with such segments, so each division is tried. -/
def afterQuote (module : Text) (quote : Char) : Text → Bool
  | '.' :: '/' :: s => named module quote ('.' :: '/' :: s) || afterQuote module quote s
  | '.' :: '.' :: '/' :: s => named module quote ('.' :: '.' :: '/' :: s) || afterQuote module quote s
  | s => named module quote s

/-- Whether a reference to the module begins the text. -/
def atStart (module : Text) (s : Text) : Bool :=
  match Text.dropPrefix? "require(".toList s with
  | none => false
  | some r =>
    match Text.trimStart r with
    | '\x27' :: t => afterQuote module '\x27' t
    | '"' :: t => afterQuote module '"' t
    | _ => false

/-- Whether a reference to the module stands in the text. -/
def inText (module : Text) (s : Text) : Bool := Text.anySuffix (atStart module) s

end Reference

end LogMigration
