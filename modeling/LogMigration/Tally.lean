/-!
# Counts and their sums

Counts are kept in 64 bits, so a sum that goes beyond them starts again at zero.

* `tally` — the exact sum of a figure over a list; `tally_append` says that parts add up,
  `tally_add` that two figures do, and `tally_perm` that the order of the items makes no difference.
* `wrapped` — what is kept of a sum; `wrapped_of_lt` says that a sum within the limit is kept whole,
  and `wrapped_wrapped_add` that wrapping at every step or only at the end makes no difference.
-/

set_option autoImplicit false

namespace LogMigration

/-- The sum of a figure over the items of a list. -/
def tally {α : Type} (figure : α → Nat) : List α → Nat
  | [] => 0
  | x :: xs => figure x + tally figure xs

@[simp]
theorem tally_nil {α : Type} (figure : α → Nat) : tally figure [] = 0 := rfl

@[simp]
theorem tally_cons {α : Type} (figure : α → Nat) (x : α) (xs : List α) :
    tally figure (x :: xs) = figure x + tally figure xs := rfl

@[simp]
theorem tally_append {α : Type} (figure : α → Nat) (xs ys : List α) :
    tally figure (xs ++ ys) = tally figure xs + tally figure ys := by
  induction xs with
  | nil => simp
  | cons x xs ih => simp [ih, Nat.add_assoc]

theorem tally_add {α : Type} (f g : α → Nat) (xs : List α) :
    tally (fun x => f x + g x) xs = tally f xs + tally g xs := by
  induction xs with
  | nil => rfl
  | cons x xs ih =>
    simp only [tally_cons, ih]
    omega

theorem tally_congr {α : Type} {f g : α → Nat} {xs : List α} (h : ∀ x ∈ xs, f x = g x) :
    tally f xs = tally g xs := by
  induction xs with
  | nil => rfl
  | cons x xs ih =>
    obtain ⟨hx, hxs⟩ := List.forall_mem_cons.1 h
    rw [tally_cons, tally_cons, hx, ih hxs]

/-- Items that are left out add nothing. -/
theorem tally_filterMap {α β : Type} (figure : β → Nat) (f : α → Option β) (xs : List α) :
    tally figure (xs.filterMap f) = tally (fun x => (f x).elim 0 figure) xs := by
  induction xs with
  | nil => rfl
  | cons x xs ih =>
    rw [tally_cons, ← ih, List.filterMap_cons]
    cases f x with
    | none => exact (Nat.zero_add _).symm
    | some y => rfl

/-- The order of the items makes no difference. -/
theorem tally_perm {α : Type} (figure : α → Nat) {xs ys : List α} (h : xs.Perm ys) :
    tally figure xs = tally figure ys := by
  induction h with
  | nil => rfl
  | cons x _ ih => rw [tally_cons, tally_cons, ih]
  | swap x y _ => simp only [tally_cons]; omega
  | trans _ _ ih₁ ih₂ => rw [ih₁, ih₂]

/-- The number of counts that there are. -/
def countLimit : Nat := 18446744073709551616

/-- What is kept of a sum. -/
def wrapped (n : Nat) : Nat := n % countLimit

theorem wrapped_of_lt {n : Nat} (h : n < countLimit) : wrapped n = n := Nat.mod_eq_of_lt h

theorem wrapped_wrapped_add (m n : Nat) : wrapped (wrapped m + n) = wrapped (m + n) := by
  simp [wrapped]

end LogMigration
