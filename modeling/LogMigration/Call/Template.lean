import LogMigration.Text.Basic

/-!
# Replacement templates

A template is a text in which `$` refers to a captured group: `$name` takes the longest name of
letters, digits and underscores, `${name}` takes everything up to the brace, and `$$` is a dollar.
A dollar that starts no reference stands for itself.  Groups are known by their number; a reference
to any other name is empty.

* `Template.expand` — the text that a template stands for.
* `Template.quote` — a text with every dollar written twice.
* `expand_quote_append` — a quoted text expands to itself, whatever follows.
* `expand_plain_append` — so does a text without dollars.
-/

set_option autoImplicit false

namespace LogMigration

namespace Template

/-- The characters of a name that is written without braces. -/
def isNameChar (c : Char) : Bool := c.isAlphanum || c == '_'

/-- What a name refers to: the group with that number. -/
def group (groups : List Text) (name : Text) : Text :=
  let digits := match name with
    | '+' :: rest => rest
    | _ => name
  if digits.isEmpty || !digits.all Char.isDigit then []
  else groups.getD (digits.foldl (fun n c => 10 * n + (c.toNat - '0'.toNat)) 0) []

/-- A reference after its dollar: the name and what follows it. -/
def reference? : Text → Option (Text × Text)
  | [] => none
  | c :: cs =>
    if c = '\x7b' then
      match cs.dropWhile (· ≠ '\x7d') with
      | [] => none
      | _ :: rest => some (cs.takeWhile (· ≠ '\x7d'), rest)
    else if isNameChar c then
      some (c :: cs.takeWhile isNameChar, cs.dropWhile isNameChar)
    else none

theorem length_dropWhile_le (p : Char → Bool) (s : Text) : (s.dropWhile p).length ≤ s.length :=
  (List.dropWhile_suffix p).length_le

theorem length_lt_of_reference? {s name rest : Text} (h : reference? s = some (name, rest)) :
    rest.length < s.length := by
  cases s with
  | nil => simp [reference?] at h
  | cons c cs =>
    simp only [reference?] at h
    split at h
    · split at h
      · simp at h
      · rename_i d r hd
        have := length_dropWhile_le (· ≠ '\x7d') cs
        simp only [Option.some.injEq, Prod.mk.injEq] at h
        rw [hd] at this
        simp only [List.length_cons, h.2] at this ⊢
        omega
    · split at h
      · simp only [Option.some.injEq, Prod.mk.injEq] at h
        have := length_dropWhile_le isNameChar cs
        rw [h.2] at this
        simp only [List.length_cons]
        omega
      · simp at h

/-- The text that a template stands for, given the groups by number. -/
def expand (groups : List Text) : Text → Text
  | [] => []
  | '$' :: '$' :: rest => '$' :: expand groups rest
  | c :: cs =>
    if c = '$' then
      match _h : reference? cs with
      | some (name, rest) => group groups name ++ expand groups rest
      | none => c :: expand groups cs
    else c :: expand groups cs
  termination_by t => t.length
  decreasing_by
    all_goals simp only [List.length_cons]
    · omega
    · have := length_lt_of_reference? _h
      omega
    · omega
    · omega

/-- A text as a template that stands for exactly this text: every dollar is written twice. -/
def quote (s : Text) : Text := s.flatMap fun c => if c = '$' then ['$', '$'] else [c]

theorem expand_cons_ne (groups : List Text) {c : Char} (h : c ≠ '$') (t : Text) :
    expand groups (c :: t) = c :: expand groups t := by
  rw [expand.eq_def]
  split
  · simp_all
  · simp_all
  · simp_all

theorem expand_dollar_dollar (groups : List Text) (t : Text) :
    expand groups ('$' :: '$' :: t) = '$' :: expand groups t := by
  rw [expand]

/-- A quoted text expands to itself, whatever follows it. -/
theorem expand_quote_append (groups : List Text) (s t : Text) :
    expand groups (quote s ++ t) = s ++ expand groups t := by
  induction s with
  | nil => rfl
  | cons c s ih =>
    by_cases h : c = '$'
    · subst h
      have : quote ('$' :: s) ++ t = '$' :: '$' :: (quote s ++ t) := by simp [quote]
      rw [this, expand_dollar_dollar, ih]
      rfl
    · have : quote (c :: s) ++ t = c :: (quote s ++ t) := by simp [quote, h]
      rw [this, expand_cons_ne groups h, ih]
      rfl

/-- A text without dollars expands to itself, whatever follows it. -/
theorem expand_plain_append (groups : List Text) {s : Text} (h : '$' ∉ s) (t : Text) :
    expand groups (s ++ t) = s ++ expand groups t := by
  induction s with
  | nil => rfl
  | cons c s ih =>
    simp only [List.mem_cons, not_or] at h
    rw [List.cons_append, expand_cons_ne groups (Ne.symm h.1), ih h.2]
    rfl

/-- A reference to the first group in braces stands for that group. -/
theorem expand_first_group (whole first : Text) (t : Text) :
    expand [whole, first] ("$\x7b1\x7d".toList ++ t) = first ++ expand [whole, first] t := by
  have named : reference? ('\x7b' :: '1' :: '\x7d' :: t) = some (['1'], t) := by
    simp [reference?]
  have found : group [whole, first] ['1'] = first := rfl
  show expand [whole, first] ('$' :: '\x7b' :: '1' :: '\x7d' :: t) = _
  rw [expand, if_pos rfl]
  · split
    · rename_i name rest h
      rw [named] at h
      simp only [Option.some.injEq, Prod.mk.injEq] at h
      rw [← h.1, ← h.2, found]
    · rename_i h
      rw [named] at h
      simp at h
  · simp

end Template

end LogMigration
