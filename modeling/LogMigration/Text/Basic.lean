/-!
# Text as a list of characters

Source files, messages and patterns are lists of characters.  This module holds the few operations
on them that the rest of the library is built from.

* `Text.dropPrefix?` — what follows a literal beginning; `dropPrefix?_eq_some_iff` says it is exact.
* `Text.lines` / `Text.ofLines` — lines split at the newline, and their inverse (`ofLines_lines`).
* `Text.anySuffix` — whether a test holds somewhere in a text, position by position.
-/

set_option autoImplicit false

namespace LogMigration

/-- A text, character by character. -/
abbrev Text := List Char

namespace Text

/-! ## Literal beginnings -/

/-- The rest of the second text after the first one, when the second begins with the first. -/
def dropPrefix? : Text → Text → Option Text
  | [], s => some s
  | _ :: _, [] => none
  | p :: ps, c :: cs => if p = c then dropPrefix? ps cs else none

theorem dropPrefix?_append (p s : Text) : dropPrefix? p (p ++ s) = some s := by
  induction p with
  | nil => rfl
  | cons c p ih => simp [dropPrefix?, ih]

theorem eq_append_of_dropPrefix? {p s r : Text} (h : dropPrefix? p s = some r) : s = p ++ r := by
  fun_induction dropPrefix? p s with
  | case1 s => simpa using h
  | case2 => simp at h
  | case3 p ps c ih => simp [ih h]
  | case4 => simp at h

theorem dropPrefix?_eq_some_iff {p s r : Text} : dropPrefix? p s = some r ↔ s = p ++ r :=
  ⟨eq_append_of_dropPrefix?, fun h => h ▸ dropPrefix?_append p r⟩

/-- Whether the second text begins with the first. -/
def startsWith (p s : Text) : Bool := (dropPrefix? p s).isSome

/-- Whether the second text ends with the first. -/
def endsWith (p s : Text) : Bool := startsWith p.reverse s.reverse

theorem startsWith_iff {p s : Text} : startsWith p s = true ↔ p <+: s := by
  rw [startsWith, Option.isSome_iff_exists]
  constructor
  · rintro ⟨r, hr⟩
    exact ⟨r, (eq_append_of_dropPrefix? hr).symm⟩
  · rintro ⟨r, rfl⟩
    exact ⟨r, dropPrefix?_append p r⟩

theorem endsWith_iff {p s : Text} : endsWith p s = true ↔ p <:+ s := by
  rw [endsWith, startsWith_iff, List.reverse_prefix]

/-- Drops a literal ending when there is one. -/
def dropSuffix (p s : Text) : Text :=
  match dropPrefix? p.reverse s.reverse with
  | some r => r.reverse
  | none => s

/-! ## Positions -/

/-- Whether the test holds of the rest of the text at some position, the end included. -/
def anySuffix (p : Text → Bool) : Text → Bool
  | [] => p []
  | c :: cs => p (c :: cs) || anySuffix p cs

theorem anySuffix_iff {p : Text → Bool} {s : Text} :
    anySuffix p s = true ↔ ∃ a b, s = a ++ b ∧ p b = true := by
  induction s with
  | nil =>
    constructor
    · intro h
      exact ⟨[], [], rfl, h⟩
    · rintro ⟨a, b, h, hb⟩
      have hab := List.append_eq_nil_iff.1 h.symm
      rw [hab.2] at hb
      exact hb
  | cons c cs ih =>
    simp only [anySuffix, Bool.or_eq_true, ih]
    constructor
    · rintro (h | ⟨a, b, h, hb⟩)
      · exact ⟨[], c :: cs, rfl, h⟩
      · exact ⟨c :: a, b, by simp [h], hb⟩
    · rintro ⟨a, b, h, hb⟩
      cases a with
      | nil => exact Or.inl (by rw [List.nil_append] at h; rw [h]; exact hb)
      | cons x a => exact Or.inr ⟨a, b, by simp_all, hb⟩

/-- Whether the second text contains the first. -/
def contains (p s : Text) : Bool := anySuffix (startsWith p) s

/-! ## Pieces -/

/-- Splits a text at every occurrence of a character; there is always at least one piece. -/
def splitAt (sep : Char) : Text → List Text
  | [] => [[]]
  | c :: cs =>
    match splitAt sep cs with
    | [] => [[c]]
    | l :: ls => if c = sep then [] :: l :: ls else (c :: l) :: ls

theorem splitAt_ne_nil (sep : Char) (s : Text) : splitAt sep s ≠ [] := by
  cases s with
  | nil => simp [splitAt]
  | cons c cs =>
    simp only [splitAt]
    split
    · simp
    · split <;> simp

theorem splitAt_of_notMem {sep : Char} {s : Text} (h : sep ∉ s) : splitAt sep s = [s] := by
  induction s with
  | nil => rfl
  | cons c s ih =>
    simp only [List.mem_cons, not_or] at h
    rw [splitAt, ih h.2]
    exact if_neg fun hc => h.1 hc.symm

theorem notMem_of_mem_splitAt {sep : Char} {s l : Text} (h : l ∈ splitAt sep s) : sep ∉ l := by
  induction s generalizing l with
  | nil =>
    obtain rfl := List.mem_singleton.1 h
    exact List.not_mem_nil
  | cons c s ih =>
    obtain ⟨m, ms, hm⟩ := List.exists_cons_of_ne_nil (splitAt_ne_nil sep s)
    rw [hm] at ih
    simp only [splitAt, hm] at h
    split at h
    · rcases List.mem_cons.1 h with rfl | h
      · exact List.not_mem_nil
      · exact ih h
    · rename_i hc
      rcases List.mem_cons.1 h with rfl | h
      · rw [List.mem_cons, not_or]
        exact ⟨fun hs => hc hs.symm, ih List.mem_cons_self⟩
      · exact ih (List.mem_cons_of_mem m h)

/-- A separator divides the pieces. -/
theorem splitAt_append_cons (sep : Char) (x y : Text) :
    splitAt sep (x ++ sep :: y) = splitAt sep x ++ splitAt sep y := by
  induction x with
  | nil =>
    obtain ⟨l, ls, hl⟩ := List.exists_cons_of_ne_nil (splitAt_ne_nil sep y)
    simp [splitAt, hl]
  | cons c x ih =>
    obtain ⟨l, ls, hl⟩ := List.exists_cons_of_ne_nil (splitAt_ne_nil sep x)
    rw [List.cons_append, splitAt, splitAt, ih, hl, List.cons_append]
    dsimp only
    split <;> rfl

/-- The pieces put together again with a separator between them. -/
def joinWith (sep : Text) : List Text → Text
  | [] => []
  | [l] => l
  | l :: m :: ls => l ++ sep ++ joinWith sep (m :: ls)

theorem joinWith_cons {sep l : Text} {ls : List Text} (h : ls ≠ []) :
    joinWith sep (l :: ls) = l ++ sep ++ joinWith sep ls := by
  cases ls with
  | nil => exact absurd rfl h
  | cons m ls => rfl

theorem joinWith_splitAt (sep : Char) (s : Text) : joinWith [sep] (splitAt sep s) = s := by
  induction s with
  | nil => rfl
  | cons c cs ih =>
    simp only [splitAt]
    split
    · rename_i h
      exact absurd h (splitAt_ne_nil sep cs)
    · rename_i l ls h
      rw [h] at ih
      split
      · rename_i hc
        rw [joinWith_cons (by simp), ih]
        simp [hc]
      · cases ls with
        | nil => simpa [joinWith] using ih
        | cons m ms => simp only [joinWith, List.cons_append] at ih ⊢; rw [ih]

theorem splitAt_joinWith {sep : Char} {ls : List Text} (hls : ls ≠ []) (h : ∀ l ∈ ls, sep ∉ l) :
    splitAt sep (joinWith [sep] ls) = ls := by
  induction ls with
  | nil => exact absurd rfl hls
  | cons l ls ih =>
    obtain ⟨hl, hrest⟩ := List.forall_mem_cons.1 h
    cases ls with
    | nil => exact splitAt_of_notMem hl
    | cons m ls =>
      rw [joinWith_cons (by simp), List.append_assoc, List.singleton_append, splitAt_append_cons,
        splitAt_of_notMem hl, ih (by simp) hrest]
      rfl

/-- Pieces that are each closed by a separator stand in front of the pieces of the rest. -/
theorem splitAt_flatMap_append {sep : Char} {ls : List Text} (h : ∀ l ∈ ls, sep ∉ l) (s : Text) :
    splitAt sep (ls.flatMap (· ++ [sep]) ++ s) = ls ++ splitAt sep s := by
  induction ls with
  | nil => rfl
  | cons l ls ih =>
    obtain ⟨hl, hls⟩ := List.forall_mem_cons.1 h
    rw [List.flatMap_cons, List.append_assoc, List.append_assoc, List.singleton_append,
      splitAt_append_cons, splitAt_of_notMem hl, ih hls]
    rfl

/-- What stands in front of one of the joined texts and behind it. -/
theorem joinWith_append_cons (sep : Text) (front : List Text) (l : Text) (back : List Text) :
    joinWith sep (front ++ l :: back)
      = front.flatMap (· ++ sep) ++ l ++ back.flatMap (sep ++ ·) := by
  induction front with
  | nil =>
    induction back generalizing l with
    | nil => simp [joinWith]
    | cons m back ih =>
      have behind := ih m
      simp only [List.nil_append, List.flatMap_nil] at behind ⊢
      rw [joinWith_cons (by simp), behind]
      simp
  | cons m front ih =>
    rw [List.cons_append, joinWith_cons (by simp), ih]
    simp

theorem joinWith_concat (sep : Text) (ls : List Text) (l : Text) :
    joinWith sep (ls ++ [l]) = ls.flatMap (· ++ sep) ++ l :=
  (joinWith_append_cons sep ls l []).trans (List.append_nil _)

/-- The pieces of a text, each closed by a separator. -/
theorem flatMap_splitAt (sep : Char) (s : Text) :
    (splitAt sep s).flatMap (· ++ [sep]) = s ++ [sep] := by
  have closed := joinWith_concat [sep] (splitAt sep s) []
  have whole := joinWith_splitAt sep (s ++ [sep])
  rw [splitAt_append_cons] at whole
  exact (List.append_nil _).symm.trans (closed.symm.trans whole)

/-- The lines of a text: what stands between its newlines, so that a text with a final newline has
an empty last line. -/
def lines (s : Text) : List Text := splitAt '\n' s

/-- The text with the given lines. -/
def ofLines (ls : List Text) : Text := joinWith ['\n'] ls

theorem lines_ne_nil (s : Text) : lines s ≠ [] := splitAt_ne_nil _ s

theorem ofLines_lines (s : Text) : ofLines (lines s) = s := joinWith_splitAt _ s

/-- The lines as a line reader gives them: no line for the empty rest after a final newline, and a
carriage return in front of a newline belongs to the line end. -/
def readLines (s : Text) : List Text :=
  (lines s).dropLast.map (dropSuffix ['\r']) ++ (lines s).getLast?.toList.filter (· ≠ [])

end Text

end LogMigration
