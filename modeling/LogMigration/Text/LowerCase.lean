import LogMigration.Text.LowerCase.Table

/-!
# Lower-casing

Full Unicode lower-casing: every letter goes to its simple lower-case form, the dotted capital I to
two characters, and a capital sigma to its final form where a cased letter precedes it and none
follows, not counting characters that are ignored in case matters.
-/

set_option autoImplicit false

namespace LogMigration

namespace Text

namespace LowerCase

def lowerChar (c : Char) : Char :=
  let n := c.toNat
  match runs.find? fun r => r.first ≤ n && n ≤ r.last && (n - r.first) % r.step == 0 with
  | some r => Char.ofNat (Int.toNat (n + r.distance))
  | none => c

/-- Whether the next character that is not ignored is a cased one. -/
def meetsCased (s : Text) : Bool :=
  match s.dropWhile caseIgnorable.contains with
  | c :: _ => cased.contains c
  | [] => false

/-- Lower-cases the second text, given in reverse the text before it. -/
def lowerAfter (before : Text) : Text → Text
  | [] => []
  | c :: rest =>
    let lowered :=
      if c = '\u03a3' then
        [if meetsCased before && !meetsCased rest then '\u03c2' else '\u03c3']
      else if c = '\u0130' then ['i', '\u0307']
      else [lowerChar c]
    lowered ++ lowerAfter (c :: before) rest

end LowerCase

def toLower (s : Text) : Text := LowerCase.lowerAfter [] s

end Text

end LogMigration
