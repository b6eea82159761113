/-!
# The rests of a text

A matcher asks one question of every rest of a text: does it fit the remaining pattern?  The answers
form a row, the whole text first and the empty rest last.  The row of a longer pattern is made from
the row of its tail in one pass, so that a match takes a pass for each part of the pattern, however
many ways there are to divide the text.

* `Rests.all` — the rests of a text.
* `Rests.row` — the answers to a question, one for each rest.
* `Rests.ended`, `Rests.step`, `Rests.anywhere`, `Rests.afterEach` — rows for the end of the text,
  for one element, for any run of elements and for whole components, each with the question that it
  answers (`ended_eq_row`, `step_row`, `anywhere_row`, `afterEach_row`).
-/

set_option autoImplicit false

namespace LogMigration

namespace Rests

variable {α : Type}

/-- The rests of a text, from the whole to nothing. -/
def all : List α → List (List α)
  | [] => [[]]
  | c :: s => (c :: s) :: all s

theorem mem_all_iff {rest s : List α} : rest ∈ all s ↔ ∃ front, s = front ++ rest := by
  induction s with
  | nil => simp [all]
  | cons c s ih =>
    rw [all, List.mem_cons, ih]
    constructor
    · rintro (rfl | ⟨front, rfl⟩)
      · exact ⟨[], rfl⟩
      · exact ⟨c :: front, rfl⟩
    · rintro ⟨front, h⟩
      cases front with
      | nil => exact .inl h.symm
      | cons d front => exact .inr ⟨front, (List.cons.inj h).2⟩

/-- The answers to a question, one for each rest of a text. -/
def row (f : List α → Bool) (s : List α) : List Bool := (all s).map f

theorem row_cons (f : List α → Bool) (c : α) (s : List α) :
    row f (c :: s) = f (c :: s) :: row f s := rfl

/-- The first answer is that for the whole text. -/
theorem headD_row (f : List α → Bool) (s : List α) (b : Bool) : (row f s).headD b = f s := by
  cases s <;> rfl

/-! ## The end of the text -/

/-- Whether nothing is left. -/
def ended : List α → List Bool
  | [] => [true]
  | _ :: s => false :: ended s

theorem ended_eq_row (s : List α) : ended s = row List.isEmpty s := by
  induction s with
  | nil => rfl
  | cons c s ih => rw [ended, ih, row_cons, List.isEmpty_cons]

/-! ## One element -/

/-- Whether an element passes the test and the answer for what follows it is yes. -/
def step (p : α → Bool) : List α → List Bool → List Bool
  | c :: s, _ :: answers => (p c && answers.headD false) :: step p s answers
  | _, _ => [false]

/-- Whether the text begins with an element that passes the test, before a rest with the answer
yes. -/
def startsWith (p : α → Bool) (f : List α → Bool) : List α → Bool
  | [] => false
  | c :: s => p c && f s

theorem step_row (p : α → Bool) (f : List α → Bool) (s : List α) :
    step p s (row f s) = row (startsWith p f) s := by
  induction s with
  | nil => rfl
  | cons c s ih => rw [row_cons, step, ih, headD_row, row_cons, startsWith]

/-! ## Any run of elements -/

/-- Whether the answer is yes here or later. -/
def anywhere : List Bool → List Bool
  | [] => []
  | b :: answers =>
    let later := anywhere answers
    (b || later.headD false) :: later

theorem anywhere_row (f : List α → Bool) (s : List α) :
    anywhere (row f s) = row (fun r => (all r).any f) s := by
  induction s with
  | nil => simp [row, all, anywhere]
  | cons c s ih => simp only [row_cons, anywhere, ih, headD_row, all, List.any_cons]

/-! ## Whole components -/

/-- The rests that follow a separator. -/
def afterSeparator (isSeparator : α → Bool) : List α → List (List α)
  | [] => []
  | c :: s =>
    if isSeparator c then s :: afterSeparator isSeparator s else afterSeparator isSeparator s

/-- Whether the answer is yes after a later separator or at the end. -/
def later (isSeparator : α → Bool) : List α → List Bool → List Bool
  | c :: s, _ :: answers =>
    let rest := later isSeparator s answers
    ((isSeparator c && answers.headD false) || rest.headD false) :: rest
  | _, answers => answers

theorem later_row (isSeparator : α → Bool) (f : List α → Bool) (s : List α) :
    later isSeparator s (row f s) = row (fun r => (afterSeparator isSeparator r).any f || f []) s := by
  induction s with
  | nil => rfl
  | cons c s ih =>
    simp only [row_cons, later, ih, headD_row, afterSeparator]
    cases isSeparator c <;> simp [Bool.or_assoc]

/-- Whether the answer is yes here, after a later separator or at the end. -/
def afterEach (isSeparator : α → Bool) (s : List α) (answers : List Bool) : List Bool :=
  List.zipWith (· || ·) answers (later isSeparator s answers)

theorem afterEach_row (isSeparator : α → Bool) (f : List α → Bool) (s : List α) :
    afterEach isSeparator s (row f s)
      = row (fun r => f r || (afterSeparator isSeparator r).any f || f []) s := by
  rw [afterEach, later_row]
  simp only [row, List.zipWith_map, List.zipWith_self, Bool.or_assoc]

end Rests

end LogMigration
