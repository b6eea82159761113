import LogMigration.Text.Basic

/-!
# Arguments

One argument by its form: the mark `--`, an option by its long name, a cluster of one-letter flags,
or a plain word.  A single `-` is a plain word.
-/

set_option autoImplicit false

namespace LogMigration

/-- An argument by its form. -/
inductive Argument where
  /-- `--`, after which all arguments are plain words. -/
  | mark
  /-- `--name`, or `--name=value`. -/
  | long (name : Text) (value : Option Text)
  /-- `-abc`: at least one letter. -/
  | cluster (first : Char) (rest : Text)
  | plain (word : Text)
  deriving DecidableEq, Repr

namespace Argument

/-- A long option's name and value, from what follows the two dashes. -/
def ofLong (s : Text) : Argument :=
  match s.dropWhile (· ≠ '=') with
  | [] => .long s none
  | _ :: value => .long (s.takeWhile (· ≠ '=')) (some value)

def ofText : Text → Argument
  | ['-', '-'] => .mark
  | '-' :: '-' :: s => ofLong s
  | '-' :: c :: s => .cluster c s
  | s => .plain s

def toText : Argument → Text
  | .mark => ['-', '-']
  | .long name none => '-' :: '-' :: name
  | .long name (some value) => '-' :: '-' :: name ++ '=' :: value
  | .cluster first rest => '-' :: first :: rest
  | .plain word => word

theorem toText_ofLong (s : Text) : (ofLong s).toText = '-' :: '-' :: s := by
  have split := List.takeWhile_append_dropWhile (p := fun c => decide (c ≠ '=')) (l := s)
  unfold ofLong
  split
  · rfl
  · rename_i c value h
    have first : c = '=' := by
      have := List.head?_dropWhile_not (fun c => decide (c ≠ '=')) s
      rw [h] at this
      simpa using this
    rw [h, first] at split
    simpa [toText] using split

/-- The form of an argument tells how it is written. -/
theorem toText_ofText (s : Text) : (ofText s).toText = s := by
  unfold ofText
  split
  · rfl
  · exact toText_ofLong _
  · rfl
  · rfl

end Argument

end LogMigration
