import LogMigration.Text.Utf8

/-!
# Console statements

A console statement is any mention of `console.log`, `console.error` or `console.warn`, whatever
its arguments look like.  Two measures of a text:

* `Console.count` — the lines that hold at least one statement, the figure that is reported;
* `Console.occurrences` — the statements themselves.

`count_le_occurrences` relates them, and `mentions_iff_occurrences_pos` says that they agree on
whether there is a statement.  Programs that know nothing of texts measure bytes:

* `Console.pattern` — a statement as a basic regular expression;
* `Console.countBytes` — the lines, between newline bytes, that hold a statement.
-/

set_option autoImplicit false

namespace LogMigration

namespace Console

/-- The methods of the console that write output. -/
inductive Method where
  | log
  | error
  | warn
  deriving DecidableEq, Repr

/-- The method as it is written after the dot. -/
def Method.name : Method → Text
  | .log => "log".toList
  | .error => "error".toList
  | .warn => "warn".toList

/-- The beginning of a statement, up to the end of the method's name. -/
def Method.head (m : Method) : Text := "console.".toList ++ m.name

/-- Whether a statement begins the text. -/
def startsStatement (s : Text) : Bool :=
  [Method.log, Method.error, Method.warn].any fun m => Text.startsWith m.head s

/-- Whether a statement stands somewhere in the text. -/
def mentions (s : Text) : Bool := Text.anySuffix startsStatement s

/-- The number of lines with at least one statement. -/
def count (s : Text) : Nat := (Text.lines s).countP mentions

/-- The number of statements. -/
def occurrences : Text → Nat
  | [] => 0
  | c :: cs => (if startsStatement (c :: cs) then 1 else 0) + occurrences cs

theorem startsStatement_append {s t : Text} (h : startsStatement s = true) :
    startsStatement (s ++ t) = true := by
  simp only [startsStatement, List.any_eq_true, Text.startsWith, Option.isSome_iff_exists] at h ⊢
  obtain ⟨m, hm, rest, hrest⟩ := h
  refine ⟨m, hm, rest ++ t, ?_⟩
  rw [Text.eq_append_of_dropPrefix? hrest, List.append_assoc]
  exact Text.dropPrefix?_append _ _

theorem occurrences_append_le (s t : Text) :
    occurrences s + occurrences t ≤ occurrences (s ++ t) := by
  induction s with
  | nil => simp [occurrences]
  | cons c s ih =>
    simp only [List.cons_append, occurrences]
    by_cases h : startsStatement (c :: s) = true
    · have := startsStatement_append (t := t) h
      simp only [List.cons_append] at this
      simp only [h, this]
      omega
    · simp only [h, Bool.false_eq_true, if_false]
      omega

theorem mentions_iff_occurrences_pos (s : Text) : mentions s = true ↔ 0 < occurrences s := by
  unfold mentions
  induction s with
  | nil => decide
  | cons c s ih =>
    by_cases h : startsStatement (c :: s) = true
    · simp only [Text.anySuffix, occurrences, h, Bool.true_or, if_true, true_iff]
      omega
    · simp only [Text.anySuffix, occurrences, h, Bool.or_eq_true, Bool.false_eq_true, false_or,
        if_false, ih, Nat.zero_add]

/-- A line counts once, however many statements it holds. -/
theorem count_le_occurrences (s : Text) : count s ≤ occurrences s := by
  have joined : ∀ ls : List Text,
      ls.countP mentions ≤ occurrences (Text.joinWith ['\n'] ls) := by
    intro ls
    induction ls with
    | nil => simp [Text.joinWith]
    | cons l ls ih =>
      have first : (if mentions l = true then 1 else 0) ≤ occurrences l := by
        split
        · exact (mentions_iff_occurrences_pos l).1 ‹_›
        · omega
      rw [List.countP_cons]
      cases ls with
      | nil => simpa [Text.joinWith] using first
      | cons m ms =>
        rw [Text.joinWith_cons (by simp), List.append_assoc]
        have outer := occurrences_append_le l (['\n'] ++ Text.joinWith ['\n'] (m :: ms))
        have inner := occurrences_append_le ['\n'] (Text.joinWith ['\n'] (m :: ms))
        omega
  have := joined (Text.lines s)
  rwa [show Text.joinWith ['\n'] (Text.lines s) = s from Text.ofLines_lines s] at this

/-! ## Bytes -/

/-- A statement as a basic regular expression. -/
def pattern : Text := "console\\.\\(log\\|error\\|warn\\)".toList

/-- Splits bytes at every byte that passes the test. -/
def splitBytes (isEnd : UInt8 → Bool) : Bytes → List Bytes
  | [] => [[]]
  | b :: bs =>
    match splitBytes isEnd bs with
    | [] => [[b]]
    | l :: ls => if isEnd b then [] :: l :: ls else (b :: l) :: ls

/-- Whether the bytes of a statement stand at the start. -/
def startsStatementBytes (bs : Bytes) : Bool :=
  [Method.log, Method.error, Method.warn].any fun m => (Utf8.encode m.head).isPrefixOf bs

/-- Whether the bytes of a statement stand somewhere. -/
def mentionsBytes : Bytes → Bool
  | [] => false
  | b :: bs => startsStatementBytes (b :: bs) || mentionsBytes bs

/-- The number of lines, between newline bytes, that hold the bytes of a statement. -/
def countBytes (bs : Bytes) : Nat := (splitBytes (· = 0x0A) bs).countP mentionsBytes

end Console

end LogMigration
