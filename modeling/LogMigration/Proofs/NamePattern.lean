import LogMigration.Path.Basic
import LogMigration.Program.Wildcard
import LogMigration.Proofs.Utf8Decoding
import Mathlib.Data.List.TakeWhile

/-!
# Names with an extension

Whether a name has an extension is asked in two ways: by the pattern `*.` with the extension behind
it, byte by byte, and by what follows the last dot of the name.

* `Utf8.exists_of_encode_eq` — a byte below 0x80 among the bytes of a text is a character of it.
* `Wildcard.fits_extension_iff` — what the pattern says, if nothing in the extension is special.
* `Path.nameExtension?_eq_some_iff` — what the last dot says.
* `Wildcard.fits_iff_nameExtension?` — they differ only in the name that is a dot and the extension.
-/

set_option autoImplicit false

namespace LogMigration

namespace Utf8

theorem high_of_mem_tailBytes {v k : Nat} {b : UInt8} (h : b ∈ tailBytes v k) : 0x80 ≤ b := by
  induction k with
  | zero => simp [tailBytes] at h
  | succ k ih =>
    rcases List.mem_cons.1 h with rfl | h
    · rw [UInt8.le_iff_toNat_le, toNat_tailByte]
      exact Nat.le_add_left _ _
    · exact ih h

/-- A character has a byte below 0x80 only if it is written in one byte. -/
theorem encodeChar_of_low_mem {c : Char} {b : UInt8} (hb : b < 0x80)
    (h : b ∈ String.utf8EncodeChar c) : String.utf8EncodeChar c = [b] := by
  have valid : c.toNat.isValidChar := c.valid
  by_cases short : c.toNat < 0x80
  · have one := encodeChar_one short
    rw [Char.ofNat_toNat] at one
    rw [one] at h ⊢
    rw [List.mem_singleton.1 h]
  · obtain ⟨lead, p, k, bytes, announced, -⟩ := exists_first valid (Nat.not_lt.1 short)
    rw [Char.ofNat_toNat] at bytes
    rw [bytes] at h
    rcases List.mem_cons.1 h with rfl | h
    · simp [first, hb] at announced
    · exact absurd (high_of_mem_tailBytes h) (UInt8.not_le.2 hb)

/-- A byte below 0x80 among the bytes of a text is a character of it, and what is around the byte is
the bytes of what is around the character. -/
theorem exists_of_encode_eq {s : Text} {front back : Bytes} {b : UInt8} (hb : b < 0x80)
    (h : encode s = front ++ b :: back) :
    ∃ x c y, s = x ++ c :: y ∧ encode x = front ∧ String.utf8EncodeChar c = [b]
      ∧ encode y = back := by
  induction s generalizing front with
  | nil => simp [encode] at h
  | cons c s ih =>
    rw [encode_cons, List.append_eq_append_iff] at h
    rcases h with ⟨front', rfl, h⟩ | ⟨rest, hc, h⟩
    · obtain ⟨x, d, y, rfl, rfl, hd, rfl⟩ := ih h
      exact ⟨c :: x, d, y, rfl, encode_cons c x, hd, rfl⟩
    · cases rest with
      | nil =>
        rw [List.append_nil] at hc
        have after : encode s = [] ++ b :: back := h.symm
        obtain ⟨x, d, y, rfl, hx, hd, rfl⟩ := ih after
        exact ⟨c :: x, d, y, rfl, by rw [encode_cons, hx, List.append_nil, hc], hd, rfl⟩
      | cons b' rest =>
        obtain ⟨rfl, rfl⟩ := List.cons.inj h
        have single := encodeChar_of_low_mem hb (by rw [hc]; simp)
        have alone : front = [] ∧ rest = [] := by
          rw [single] at hc
          cases front with
          | nil => exact ⟨rfl, (List.cons.inj hc).2.symm⟩
          | cons _ front => simp at hc
        obtain ⟨rfl, rfl⟩ := alone
        exact ⟨[], c, s, rfl, rfl, single, rfl⟩

end Utf8

namespace Wildcard

open Utf8

/-! ## The pattern -/

/-- The token of a byte that stands for itself. -/
def literal (b : UInt8) : Token := .set false [.one b]

/-- Whether a character stands for itself in a pattern. -/
def IsLiteral (c : Char) : Prop := c ≠ '*' ∧ c ≠ '?' ∧ c ≠ '[' ∧ c ≠ '\\'

instance (c : Char) : Decidable (IsLiteral c) :=
  inferInstanceAs (Decidable (c ≠ '*' ∧ c ≠ '?' ∧ c ≠ '[' ∧ c ≠ '\\'))

theorem tokens_of_literal {bs : Bytes}
    (h : ∀ b ∈ bs, b ≠ byte '*' ∧ b ≠ byte '?' ∧ b ≠ byte '[' ∧ b ≠ byte '\\') {fuel : Nat}
    (hfuel : bs.length < fuel) : tokens fuel bs = bs.map literal := by
  induction bs generalizing fuel with
  | nil => cases fuel <;> rfl
  | cons b bs ih =>
    obtain ⟨⟨star, any, bracket, backslash⟩, hbs⟩ := List.forall_mem_cons.1 h
    cases fuel with
    | zero => exact absurd hfuel (Nat.not_lt_zero _)
    | succ fuel =>
      simp only [tokens, star, any, backslash, bracket, if_false,
        ih hbs (Nat.lt_of_succ_lt_succ hfuel)]
      rfl

theorem fitsFrom_literal_iff {bs name : Bytes} :
    fitsFrom (bs.map literal) name = true ↔ name = bs := by
  induction bs generalizing name with
  | nil => simp [fitsFrom]
  | cons b bs ih =>
    cases name with
    | nil => simp [fitsFrom, literal, Rests.startsWith]
    | cons x name =>
      simp [fitsFrom, literal, Rests.startsWith, Token.accepts, ByteClass.contains, ← ih]

theorem ne_of_mem_encode {s : Text} (h : ∀ c ∈ s, IsLiteral c) {b : UInt8} (hb : b ∈ encode s) :
    b ≠ byte '*' ∧ b ≠ byte '?' ∧ b ≠ byte '[' ∧ b ≠ byte '\\' := by
  have apart : ∀ special : Char, String.utf8EncodeChar special = [byte special] →
      byte special < 0x80 → special ∉ s → b ≠ byte special := by
    rintro special hspecial low hs rfl
    obtain ⟨front, back, hsplit⟩ := List.append_of_mem hb
    obtain ⟨x, c, y, rfl, -, hc, -⟩ := exists_of_encode_eq low hsplit
    have same : [c] = [special] := by
      refine encode_injective ?_
      rw [encode_cons, encode_cons, hc, hspecial]
    exact hs (by rw [← List.singleton_inj.1 same]; simp)
  refine ⟨apart '*' (by decide) (by decide) fun hs => (h _ hs).1 rfl,
    apart '?' (by decide) (by decide) fun hs => (h _ hs).2.1 rfl,
    apart '[' (by decide) (by decide) fun hs => (h _ hs).2.2.1 rfl,
    apart '\\' (by decide) (by decide) fun hs => (h _ hs).2.2.2 rfl⟩

/-- The pattern of an extension fits the names that end in a dot and the extension. -/
theorem fits_extension_iff {extension name : Text} (h : ∀ c ∈ extension, IsLiteral c) :
    fits ("*.".toList ++ extension) name = true ↔ ∃ stem, name = stem ++ '.' :: extension := by
  have dotted : ∀ c ∈ '.' :: extension, IsLiteral c := by
    intro c hc
    rcases List.mem_cons.1 hc with rfl | hc
    · simp [IsLiteral]
    · exact h c hc
  have pattern : ofPattern ("*.".toList ++ extension)
      = .star :: (encode ('.' :: extension)).map literal := by
    have bytes : encode ("*.".toList ++ extension) = byte '*' :: encode ('.' :: extension) := rfl
    have rest := tokens_of_literal (fun b => ne_of_mem_encode dotted)
      (Nat.lt_succ_self (encode ('.' :: extension)).length)
    rw [ofPattern, bytes, ← rest]
    rfl
  rw [fits_eq_fitsFrom, pattern, fitsFrom, List.any_eq_true]
  constructor
  · rintro ⟨rest, hrest, hfit⟩
    obtain rfl := fitsFrom_literal_iff.1 hfit
    obtain ⟨front, hname⟩ := Rests.mem_all_iff.1 hrest
    have dot : encode ('.' :: extension) = byte '.' :: encode extension := rfl
    rw [dot] at hname
    obtain ⟨x, c, y, rfl, -, hc, hy⟩ := exists_of_encode_eq (by decide) hname
    refine ⟨x, congrArg (x ++ ·) (encode_injective ?_)⟩
    rw [dot, encode_cons, hc, hy]
    rfl
  · rintro ⟨stem, rfl⟩
    refine ⟨encode ('.' :: extension), Rests.mem_all_iff.2 ⟨encode stem, encode_append ..⟩, ?_⟩
    exact fitsFrom_literal_iff.2 rfl

end Wildcard

/-! ## The last dot -/

namespace Path

theorem nameExtension?_of_notMem {name : Text} (h : '.' ∉ name) : nameExtension? name = none := by
  have nothing : name.reverse.dropWhile (· ≠ '.') = [] := by
    refine List.dropWhile_eq_nil_iff.2 fun c hc => ?_
    have other : c ≠ '.' := fun heq => h (heq ▸ List.mem_reverse.1 hc)
    simp [other]
  simp only [nameExtension?, nothing]

theorem nameExtension?_append {stem extension : Text} (h : '.' ∉ extension) :
    nameExtension? (stem ++ '.' :: extension) = if stem = [] then none else some extension := by
  have back : (stem ++ '.' :: extension).reverse = extension.reverse ++ '.' :: stem.reverse := by
    simp
  have others : ∀ c ∈ extension.reverse, decide (c ≠ '.') = true := by
    intro c hc
    have other : c ≠ '.' := fun heq => h (heq ▸ List.mem_reverse.1 hc)
    simp [other]
  have rest : (stem ++ '.' :: extension).reverse.dropWhile (· ≠ '.') = '.' :: stem.reverse := by
    rw [back, List.dropWhile_append_of_pos others]
    rfl
  have last : (stem ++ '.' :: extension).reverse.takeWhile (· ≠ '.') = extension.reverse := by
    rw [back, List.takeWhile_append_of_pos others]
    exact List.append_nil _
  simp only [nameExtension?, rest, last, List.reverse_eq_nil_iff, List.reverse_reverse]

/-- The extension of a name is what follows its last dot, unless nothing is in front of that dot. -/
theorem nameExtension?_eq_some_iff {name extension : Text} :
    nameExtension? name = some extension
      ↔ '.' ∉ extension ∧ ∃ stem, stem ≠ [] ∧ name = stem ++ '.' :: extension := by
  constructor
  · intro h
    by_cases hdot : '.' ∈ name
    · obtain ⟨last, before, hback, hlast⟩ := List.eq_append_cons_of_mem (List.mem_reverse.2 hdot)
      obtain rfl : name = before.reverse ++ '.' :: last.reverse := by
        rw [← List.reverse_reverse name, hback]
        simp
      have dotless : '.' ∉ last.reverse := by simpa using hlast
      rw [nameExtension?_append dotless] at h
      split at h
      · cases h
      · obtain rfl := Option.some.inj h
        exact ⟨dotless, _, ‹_›, rfl⟩
    · rw [nameExtension?_of_notMem hdot] at h
      cases h
  · rintro ⟨hdot, stem, hne, rfl⟩
    rw [nameExtension?_append hdot, if_neg hne]

end Path

/-- For an extension without dots and special characters the pattern and the last dot agree on all
names but one. -/
theorem Wildcard.fits_iff_nameExtension? {extension name : Text}
    (h : ∀ c ∈ extension, IsLiteral c ∧ c ≠ '.') :
    (fits ("*.".toList ++ extension) name = true ↔ Path.nameExtension? name = some extension)
      ↔ name ≠ '.' :: extension := by
  have dotless : '.' ∉ extension := fun hdot => (h _ hdot).2 rfl
  rw [fits_extension_iff fun c hc => (h c hc).1, Path.nameExtension?_eq_some_iff]
  constructor
  · rintro agree rfl
    obtain ⟨-, stem, hne, hstem⟩ := agree.1 ⟨[], rfl⟩
    have lengths := congrArg List.length hstem
    rw [List.length_append] at lengths
    exact hne (List.length_eq_zero_iff.1 (by omega))
  · intro hname
    constructor
    · rintro ⟨stem, rfl⟩
      refine ⟨dotless, stem, ?_, rfl⟩
      rintro rfl
      exact hname rfl
    · rintro ⟨-, stem, -, rfl⟩
      exact ⟨stem, rfl⟩

end LogMigration
