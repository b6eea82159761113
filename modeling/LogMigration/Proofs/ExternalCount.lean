import LogMigration.Proofs.ByteLines
import LogMigration.Scan.System

/-!
# Counting in the tree and by a program

The external backend reads the number that the program `grep` prints.  If this is the number of
lines whose bytes hold a statement, the backend counts like the builtin one, which reads the bytes
as a text.

* `Text.count?_toDigits` — a printed number is read as it was.
* `External.CountsLines` — what is relied on in `grep`; `Grep.countsLines` says that the program of
  the system does it for a file without NUL bytes.
* `External.count_eq_builtin`, `counts_agree` — both backends count alike.
-/

set_option autoImplicit false

namespace LogMigration

/-! ## Printed numbers -/

namespace Text

theorem count?_toDigits {n : Nat} (h : n < countLimit) : count? (Nat.toDigits 10 n) = some n := by
  have digits : ∀ c ∈ Nat.toDigits 10 n, c.isDigit = true := fun c hc =>
    Nat.isDigit_of_mem_toDigits (by decide) (by decide) hc
  have unsigned : dropPrefix? ['+'] (Nat.toDigits 10 n) = none := by
    cases hdigits : Nat.toDigits 10 n with
    | nil => rfl
    | cons c ds =>
      have other : '+' ≠ c := by
        rintro rfl
        exact absurd (digits '+' (by simp [hdigits])) (by decide)
      simp [dropPrefix?, other]
  have value : digitsValue (Nat.toDigits 10 n) = n :=
    Nat.ofDigitChars_toDigits (by decide) (by decide)
  simp only [count?, unsigned, Option.getD_none, value]
  simpa [h] using digits

theorem isWhite_of_isDigit {c : Char} (h : c.isDigit = true) : isWhite c = false := by
  have range : 48 ≤ c.toNat ∧ c.toNat ≤ 57 := by
    simpa [Char.isDigit, UInt32.le_iff_toNat_le] using h
  simp only [isWhite, Bool.or_eq_false_iff, Bool.and_eq_false_iff, decide_eq_false_iff_not,
    beq_eq_false_iff_ne]
  omega

theorem dropWhile_isWhite {s : Text} (h : ∀ c ∈ s, isWhite c = false) :
    s.dropWhile isWhite = s := by
  cases s with
  | nil => rfl
  | cons c s => rw [List.dropWhile_cons_of_neg (by simp [h c])]

/-- A line without white space is what is left of it with its end. -/
theorem trim_line {s : Text} (h : ∀ c ∈ s, isWhite c = false) : trim (s ++ ['\n']) = s := by
  cases s with
  | nil => decide
  | cons c s =>
    have started : trimStart (c :: s ++ ['\n']) = c :: s ++ ['\n'] :=
      List.dropWhile_cons_of_neg (by simp [h c])
    have back : ∀ d ∈ (c :: s).reverse, isWhite d = false := fun d hd => h d (List.mem_reverse.1 hd)
    rw [trim, started, trimEnd, List.reverse_append, List.reverse_singleton, List.singleton_append,
      List.dropWhile_cons_of_pos (by decide), dropWhile_isWhite back, List.reverse_reverse]

end Text

/-! ## The external backend -/

namespace External

/-- What the external backend relies on: the program `grep`, asked for the number of lines of a file
that fit the pattern, prints it on a line, and its status tells whether it is zero. -/
def CountsLines (launch : Launcher) (tools : Tools) (w : Workspace) (path : Path) (n : Nat) : Prop :=
  ∃ output after, launch w tools.grep ["-c".toList, Console.pattern, path.text] = .ok (output, after)
    ∧ output.code = some (if n = 0 then 1 else 0)
    ∧ output.stdout = Utf8.encode ((toString n).toList ++ ['\n'])

variable {launch : Launcher} {tools : Tools} {w : Workspace} {path : Path}

theorem readCount_line {program : Text} {output : ProgramOutput} {n : Nat} (hn : n < countLimit)
    (hcode : output.code = some (if n = 0 then 1 else 0))
    (hprinted : output.stdout = Utf8.encode ((toString n).toList ++ ['\n'])) :
    readCount program output = .ok n := by
  unfold readCount
  by_cases hzero : n = 0
  · simp [hcode, hzero]
  · have digits : (toString n).toList = Nat.toDigits 10 n := Nat.toList_repr
    have printed : Text.trim (Utf8.decodeLossy output.stdout) = Nat.toDigits 10 n := by
      rw [hprinted, Utf8.decodeLossy_encode, digits]
      exact Text.trim_line fun c hc => Text.isWhite_of_isDigit
        (Nat.isDigit_of_mem_toDigits (by decide) (by decide) hc)
    simp only [hcode, hzero, if_false, printed, Text.count?_toDigits hn]

theorem count_of_countsLines {n : Nat} (h : CountsLines launch tools w path n)
    (hn : n < countLimit) : (count launch tools w path).1 = .ok n := by
  obtain ⟨output, after, launched, hcode, hprinted⟩ := h
  rw [count, launched]
  exact readCount_line hn hcode hprinted

/-- Both backends count alike, however programs are launched, if `grep` counts the lines that hold
the bytes of a statement. -/
theorem count_eq_builtin {bytes : Bytes} (hread : w.read path = .ok bytes)
    (hgrep : CountsLines launch tools w path (Console.countBytes bytes))
    (hn : Console.countBytes bytes < countLimit) :
    (count launch tools w path).1 = Builtin.count w path := by
  rw [count_of_countsLines hgrep hn, Builtin.count, hread]
  exact congrArg _ (Console.count_decodeLossy bytes).symm

end External

/-! ## The program of the system -/

theorem Console.splitBytes_congr {isEnd isEnd' : UInt8 → Bool} {bs : Bytes}
    (h : ∀ b ∈ bs, isEnd b = isEnd' b) : splitBytes isEnd bs = splitBytes isEnd' bs := by
  induction bs with
  | nil => rfl
  | cons b bs ih =>
    obtain ⟨hb, hbs⟩ := List.forall_mem_cons.1 h
    rw [splitBytes, splitBytes, ih hbs, hb]

namespace Grep

variable {w : Workspace} {path : Path} {bytes : Bytes}

theorem lineCount_eq_countBytes (hnul : 0x00 ∉ bytes) :
    lineCount bytes = Console.countBytes bytes := by
  refine congrArg (List.countP _) (Console.splitBytes_congr fun b hb => ?_)
  have other : b ≠ 0x00 := ne_of_mem_of_not_mem hb hnul
  simp [other]

theorem notMem_of_read (hread : w.read path = .ok bytes) : '\x00' ∉ path.text := by
  intro hmem
  have way : w.tree.resolve w.cwd path true = .error .nulInPath := if_pos hmem
  simp [Workspace.read, FileTree.read, FileTree.entry, way] at hread

/-- The program of the system does what the external backend relies on, for a path that does not
look like options and a file without NUL bytes. -/
theorem countsLines (hprograms : w.programs = .system) (hread : w.read path = .ok bytes)
    (hpath : path.text.head? ≠ some '-') (hnul : 0x00 ∉ bytes) :
    External.CountsLines Workspace.launch {} w path (Console.countBytes bytes) := by
  have free : ∀ a ∈ ["-c".toList, Console.pattern, path.text], '\x00' ∉ a := by
    have words : '\x00' ∉ "-c".toList ∧ '\x00' ∉ Console.pattern := by decide
    simp only [List.forall_mem_cons, words, notMem_of_read hread, not_false_eq_true,
      List.not_mem_nil, false_imp_iff, implies_true, and_self]
  have named : run w path = countFile w path := by
    unfold run
    split
    · rename_i h
      simp [h] at hpath
    · rfl
  have counted : countFile w path = answer (Console.countBytes bytes) := by
    have file : path.text ≠ ['-'] := fun h => by simp [h] at hpath
    simp only [countFile, file, if_false, hread, lineCount_eq_countBytes hnul]
  refine ⟨answer (Console.countBytes bytes), w, ?_, rfl, rfl⟩
  rw [← counted, ← named]
  exact Workspace.launch_of_system hprograms .grep free

end Grep

/-- On a system both backends count alike in a file without NUL bytes. -/
theorem counts_agree {σ : Type} {w : Workspace} (state : σ) {path : Path} {bytes : Bytes}
    (hprograms : w.programs = .system) (hread : w.read path = .ok bytes)
    (hpath : path.text.head? ≠ some '-') (hnul : 0x00 ∉ bytes)
    (hn : Console.countBytes bytes < countLimit) :
    ((External.backend {}).count path (w, state)).1
      = (Builtin.backend.count path (w, state)).1 :=
  External.count_eq_builtin hread (Grep.countsLines hprograms hread hpath hnul) hn

end LogMigration
