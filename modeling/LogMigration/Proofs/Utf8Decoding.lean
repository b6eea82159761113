import LogMigration.Text.Utf8
import Mathlib.Algebra.Group.Nat.Defs

/-!
# Reading and writing UTF-8

Bytes that are read as UTF-8 are the bytes of the text that was read, reading them with
replacements gives the same text, and so does reading what was written.

* `Utf8.Pending.Follows` — the bytes of a character so far, as the machine knows them: whatever code
  it may still come to has these bytes first.
* `Follows.of_lead?`, `Follows.of_more`, `Follows.encode_char` — the first byte, a byte on the way
  and the last one.
* `Utf8.encode_of_decode` — writing what was read gives the same bytes.
* `Utf8.decodeLossy_of_decode` — no replacement is read where the bytes are UTF-8.
* `Utf8.decode_encode` — the bytes of a text are read as the text.
-/

set_option autoImplicit false

namespace LogMigration

namespace Utf8

/-! ## The bytes of a character -/

/-- The last bytes of a character: each holds six bits of the code. -/
def tailBytes (v : Nat) : Nat → Bytes
  | 0 => []
  | k + 1 => UInt8.ofNat (v / 64 ^ k % 64 + 0x80) :: tailBytes v k

theorem toNat_val_ofNat {v : Nat} (h : v.isValidChar) : (Char.ofNat v).val.toNat = v := by
  rw [Char.ofNat, dif_pos h]
  rfl

section Bytes

variable {v : Nat}

theorem encodeChar_one (h : v < 0x80) :
    String.utf8EncodeChar (Char.ofNat v) = [UInt8.ofNat v] := by
  unfold String.utf8EncodeChar
  rw [toNat_val_ofNat (.inl (by omega))]
  exact if_pos (by omega)

theorem encodeChar_two (low : 0x80 ≤ v) (high : v < 0x800) :
    String.utf8EncodeChar (Char.ofNat v) = UInt8.ofNat (v / 64 + 0xC0) :: tailBytes v 1 := by
  unfold String.utf8EncodeChar
  rw [toNat_val_ofNat (.inl (by omega))]
  dsimp only
  rw [if_neg (by omega), if_pos (by omega), Nat.mod_eq_of_lt (by omega : v / 64 < 32)]
  simp [tailBytes]

theorem encodeChar_three (low : 0x800 ≤ v) (high : v < 0x10000) (valid : v.isValidChar) :
    String.utf8EncodeChar (Char.ofNat v) = UInt8.ofNat (v / 4096 + 0xE0) :: tailBytes v 2 := by
  unfold String.utf8EncodeChar
  rw [toNat_val_ofNat valid]
  dsimp only
  rw [if_neg (by omega), if_neg (by omega), if_pos (by omega),
    Nat.mod_eq_of_lt (by omega : v / 4096 < 16)]
  simp [tailBytes]

theorem encodeChar_four (low : 0x10000 ≤ v) (high : v < 0x110000) :
    String.utf8EncodeChar (Char.ofNat v) = UInt8.ofNat (v / 262144 + 0xF0) :: tailBytes v 3 := by
  unfold String.utf8EncodeChar
  rw [toNat_val_ofNat (.inr ⟨by omega, high⟩)]
  dsimp only
  rw [if_neg (by omega), if_neg (by omega), if_neg (by omega),
    Nat.mod_eq_of_lt (by omega : v / 262144 < 8)]
  simp [tailBytes]

end Bytes

/-! ## Bytes inside a character -/

/-- Whether the bytes so far are those of each code that can still be reached: the code so far is
the upper part of it, and the next byte is in the range. -/
structure Pending.Follows (p : Pending) (front : Bytes) : Prop where
  owed : 0 < p.owed
  low : 0x80 ≤ p.low.toNat
  high : p.high.toNat ≤ 0xBF
  encodeChar : ∀ v, v / 64 ^ p.owed = p.code → p.low.toNat ≤ v / 64 ^ (p.owed - 1) % 64 + 0x80 →
    v / 64 ^ (p.owed - 1) % 64 + 0x80 ≤ p.high.toNat →
    String.utf8EncodeChar (Char.ofNat v) = front ++ tailBytes v p.owed

namespace Pending.Follows

theorem two_bytes {b : UInt8} (low : 0xC2 ≤ b.toNat) (high : b.toNat ≤ 0xDF) :
    Follows ⟨1, 0x80, 0xBF, b.toNat - 0xC0⟩ [b] where
  owed := Nat.one_pos
  low := Nat.le_refl _
  high := Nat.le_refl _
  encodeChar v code _ _ := by
    have upper : v / 64 + 0xC0 = b.toNat := by
      have : v / 64 ^ 1 = b.toNat - 0xC0 := code
      omega
    rw [encodeChar_two (by omega) (by omega), upper, UInt8.ofNat_toNat, List.singleton_append]

/-- The range keeps out codes that fit into two bytes, and those that no character has. -/
theorem three_bytes {b l h : UInt8} (low : 0xE0 ≤ b.toNat) (high : b.toNat ≤ 0xEF)
    (first : 0x80 ≤ l.toNat) (last : h.toNat ≤ 0xBF) (long : b.toNat = 0xE0 → 0xA0 ≤ l.toNat)
    (valid : b.toNat = 0xED → h.toNat ≤ 0x9F) : Follows ⟨2, l, h, b.toNat - 0xE0⟩ [b] where
  owed := Nat.two_pos
  low := first
  high := last
  encodeChar v code above below := by
    dsimp only at code above below
    have upper : v / 4096 + 0xE0 = b.toNat := by omega
    have char : v.isValidChar := by
      unfold Nat.isValidChar
      omega
    rw [encodeChar_three (by omega) (by omega) char, upper, UInt8.ofNat_toNat,
      List.singleton_append]

/-- The range keeps out codes that fit into three bytes, and those beyond the last character. -/
theorem four_bytes {b l h : UInt8} (low : 0xF0 ≤ b.toNat) (high : b.toNat ≤ 0xF4)
    (first : 0x80 ≤ l.toNat) (last : h.toNat ≤ 0xBF) (long : b.toNat = 0xF0 → 0x90 ≤ l.toNat)
    (valid : b.toNat = 0xF4 → h.toNat ≤ 0x8F) : Follows ⟨3, l, h, b.toNat - 0xF0⟩ [b] where
  owed := Nat.succ_pos 2
  low := first
  high := last
  encodeChar v code above below := by
    dsimp only at code above below
    have upper : v / 262144 + 0xF0 = b.toNat := by omega
    rw [encodeChar_four (by omega) (by omega), upper, UInt8.ofNat_toNat, List.singleton_append]

/-- The first byte of a character is the one that announces it. -/
theorem of_lead? {b : UInt8} {p : Pending} (h : lead? b = some p) : p.Follows [b] := by
  have other : ∀ {n : Nat} {d : UInt8}, b ≠ d → d.toNat = n → b.toNat ≠ n := by
    rintro n d hne rfl heq
    exact hne (UInt8.toNat_inj.1 heq)
  unfold lead? at h
  simp only [Bool.and_eq_true, decide_eq_true_eq, UInt8.le_iff_toNat_le] at h
  split at h
  · rename_i hb
    cases h
    exact two_bytes hb.1 hb.2
  split at h
  · rename_i hb
    subst hb
    cases h
    exact three_bytes (b := 0xE0) (by decide) (by decide) (by decide) (by decide) (by decide)
      (by decide)
  rename_i hE0
  split at h
  · rename_i hb
    subst hb
    cases h
    exact three_bytes (b := 0xED) (by decide) (by decide) (by decide) (by decide) (by decide)
      (by decide)
  rename_i hED
  split at h
  · rename_i hb
    cases h
    exact three_bytes (Nat.le_trans (by decide) hb.1) hb.2 (by decide) (by decide)
      (fun heq => absurd heq (other hE0 rfl)) (fun heq => absurd heq (other hED rfl))
  split at h
  · rename_i hb
    subst hb
    cases h
    exact four_bytes (b := 0xF0) (by decide) (by decide) (by decide) (by decide) (by decide)
      (by decide)
  rename_i hF0
  split at h
  · rename_i hb
    cases h
    have last : b.toNat ≤ 0xF3 := hb.2
    exact four_bytes (Nat.le_trans (by decide) hb.1) (by omega) (by decide) (by decide)
      (fun heq => absurd heq (other hF0 rfl)) (fun heq => by omega)
  split at h
  · rename_i hb
    subst hb
    cases h
    exact four_bytes (b := 0xF4) (by decide) (by decide) (by decide) (by decide) (by decide)
      (by decide)
  · cases h

theorem of_more {p p' : Pending} {front : Bytes} (hp : p.Follows front) {b : UInt8}
    (h : next p b = .more p') : p'.Follows (front ++ [b]) := by
  unfold next at h
  split at h
  · rename_i hb
    simp only [Bool.and_eq_true, decide_eq_true_eq, UInt8.le_iff_toNat_le] at hb
    dsimp only at h
    split at h
    · cases h
    · rename_i more
      cases h
      have low := hp.low
      have high := hp.high
      refine ⟨by dsimp only; omega, Nat.le_refl _, Nat.le_refl _, fun v code _ _ => ?_⟩
      dsimp only at code ⊢
      obtain ⟨k, hk⟩ : ∃ k, p.owed = k + 1 := ⟨p.owed - 1, by omega⟩
      rw [hk, Nat.add_sub_cancel] at code ⊢
      have bits : v / 64 ^ k % 64 + 0x80 = b.toNat := by omega
      have upper : v / 64 ^ p.owed = p.code := by
        rw [hk, Nat.pow_succ, ← Nat.div_div_eq_div_mul, code]
        omega
      have whole := hp.encodeChar v upper
      rw [hk, Nat.add_sub_cancel, bits] at whole
      rw [whole hb.1 hb.2, tailBytes, bits, UInt8.ofNat_toNat, List.append_assoc,
        List.singleton_append]
  · cases h

theorem encode_char {p : Pending} {front : Bytes} (hp : p.Follows front) {b : UInt8} {c : Char}
    (h : next p b = .char c) : String.utf8EncodeChar c = front ++ [b] := by
  unfold next at h
  split at h
  · rename_i hb
    simp only [Bool.and_eq_true, decide_eq_true_eq, UInt8.le_iff_toNat_le] at hb
    dsimp only at h
    split at h
    · rename_i last
      obtain rfl := Step.char.inj h
      have low := hp.low
      have high := hp.high
      have one : p.owed = 1 := by
        have := hp.owed
        omega
      generalize hv : 64 * p.code + (b.toNat - 0x80) = v
      have upper : v / 64 = p.code := by omega
      have bits : v % 64 + 0x80 = b.toNat := by omega
      have whole := hp.encodeChar v
      simp only [one, Nat.sub_self, Nat.pow_zero, Nat.pow_one, Nat.div_one, bits] at whole
      rw [whole upper hb.1 hb.2, tailBytes, Nat.pow_zero, Nat.div_one, bits, UInt8.ofNat_toNat,
        tailBytes]
    · cases h
  · cases h

end Pending.Follows

/-! ## Whole texts -/

/-- What a byte does to the machine, between characters or inside one. -/
def step (pending : Option Pending) (b : UInt8) : Step := pending.elim (first b) fun p => next p b

section Cons

variable {start taken : Nat} {pending : Option Pending} {b : UInt8} {bs : Bytes}

theorem decodeFrom_cons_of_char {c : Char} (h : step pending b = .char c) :
    decodeFrom start taken pending (b :: bs)
      = (decodeFrom (start + taken + 1) 0 none bs).map (c :: ·) := by
  cases pending with
  | none =>
    have hfirst : first b = .char c := h
    simp only [decodeFrom, hfirst]
  | some p =>
    have hnext : next p b = .char c := h
    simp only [decodeFrom, hnext]

theorem decodeFrom_cons_of_more {p : Pending} (h : step pending b = .more p) :
    decodeFrom start taken pending (b :: bs) = decodeFrom start (taken + 1) (some p) bs := by
  cases pending with
  | none =>
    have hfirst : first b = .more p := h
    simp only [decodeFrom, hfirst]
  | some q =>
    have hnext : next q b = .more p := h
    simp only [decodeFrom, hnext]

theorem decodeFrom_cons_of_refuse (h : step pending b = .refuse) :
    decodeFrom start taken pending (b :: bs) = .error ⟨start, some (max taken 1)⟩ := by
  cases pending with
  | none =>
    have hfirst : first b = .refuse := h
    simp only [decodeFrom, hfirst]
  | some p =>
    have hnext : next p b = .refuse := h
    simp only [decodeFrom, hnext]

/-- A byte of a text that can be read ends a character or goes on with one. -/
theorem decodeFrom_cons_eq_ok {s : Text} (h : decodeFrom start taken pending (b :: bs) = .ok s) :
    (∃ c t, step pending b = .char c ∧ decodeFrom (start + taken + 1) 0 none bs = .ok t
        ∧ s = c :: t)
      ∨ ∃ p, step pending b = .more p ∧ decodeFrom start (taken + 1) (some p) bs = .ok s := by
  cases hstep : step pending b with
  | char c =>
    rw [decodeFrom_cons_of_char hstep] at h
    cases hrest : decodeFrom (start + taken + 1) 0 none bs with
    | error e =>
      rw [hrest] at h
      cases h
    | ok t =>
      rw [hrest] at h
      cases h
      exact .inl ⟨c, t, rfl, rfl, rfl⟩
  | more p =>
    rw [decodeFrom_cons_of_more hstep] at h
    exact .inr ⟨p, rfl, h⟩
  | refuse =>
    rw [decodeFrom_cons_of_refuse hstep] at h
    cases h

end Cons

/-- The bytes so far, of a character that may have begun. -/
def Trails (front : Bytes) : Option Pending → Prop
  | none => front = []
  | some p => p.Follows front

theorem trails_nil : Trails [] none := rfl

/-- A byte that ends a character is the last of its bytes. -/
theorem Trails.encode_char {front : Bytes} {pending : Option Pending} (hf : Trails front pending)
    {b : UInt8} {c : Char} (h : step pending b = .char c) :
    String.utf8EncodeChar c = front ++ [b] := by
  cases pending with
  | some p => exact Pending.Follows.encode_char hf h
  | none =>
    obtain rfl : front = [] := hf
    simp only [step, Option.elim_none, first] at h
    split at h
    · rename_i hb
      cases h
      have ascii : b.toNat < 0x80 := by simpa [UInt8.lt_iff_toNat_lt] using hb
      rw [encodeChar_one ascii, UInt8.ofNat_toNat, List.nil_append]
    · split at h <;> cases h

theorem Trails.of_more {front : Bytes} {pending : Option Pending} (hf : Trails front pending)
    {b : UInt8} {p : Pending} (h : step pending b = .more p) : p.Follows (front ++ [b]) := by
  cases pending with
  | some p => exact Pending.Follows.of_more hf h
  | none =>
    obtain rfl : front = [] := hf
    simp only [step, Option.elim_none, first] at h
    split at h
    · cases h
    · split at h
      · rename_i hp
        cases h
        exact .of_lead? hp
      · cases h

/-- The bytes so far and the rest of the bytes are those of the text. -/
theorem encode_of_decodeFrom {start taken : Nat} {pending : Option Pending} {front bs : Bytes}
    {s : Text} (hf : Trails front pending) (h : decodeFrom start taken pending bs = .ok s) :
    encode s = front ++ bs := by
  induction bs generalizing start taken pending front s with
  | nil =>
    cases pending with
    | none =>
      obtain rfl : front = [] := hf
      cases h
      rfl
    | some p => cases h
  | cons b bs ih =>
    rcases decodeFrom_cons_eq_ok h with ⟨c, t, hstep, ht, rfl⟩ | ⟨p, hstep, hs⟩
    · rw [encode, List.flatMap_cons, hf.encode_char hstep, ← encode, ih trails_nil ht]
      simp
    · have later : Trails (front ++ [b]) (some p) := hf.of_more hstep
      rw [ih later hs, List.append_assoc, List.singleton_append]

theorem encode_of_decode {bs : Bytes} {s : Text} (h : decode bs = .ok s) : encode s = bs :=
  encode_of_decodeFrom trails_nil h

theorem readByte_of_char {pending : Option Pending} {b : UInt8} {c : Char}
    (h : step pending b = .char c) : readByte pending b = ([c], none) := by
  cases pending with
  | none => simp only [readByte, readFirst, show first b = .char c from h]
  | some p => simp only [readByte, show next p b = .char c from h]

theorem readByte_of_more {pending : Option Pending} {b : UInt8} {p : Pending}
    (h : step pending b = .more p) : readByte pending b = ([], some p) := by
  cases pending with
  | none => simp only [readByte, readFirst, show first b = .more p from h]
  | some p' => simp only [readByte, show next p' b = .more p from h]

theorem decodeLossyFrom_of_decodeFrom {start taken : Nat} {pending : Option Pending} {bs : Bytes}
    {s : Text} (h : decodeFrom start taken pending bs = .ok s) :
    decodeLossyFrom pending bs = s := by
  induction bs generalizing start taken pending s with
  | nil =>
    cases pending with
    | none =>
      cases h
      rfl
    | some p => cases h
  | cons b bs ih =>
    rw [decodeLossyFrom]
    rcases decodeFrom_cons_eq_ok h with ⟨c, t, hstep, ht, rfl⟩ | ⟨p, hstep, hs⟩
    · rw [readByte_of_char hstep, ih ht]
      rfl
    · rw [readByte_of_more hstep, ih hs]
      rfl

/-- No replacement is read where the bytes are UTF-8. -/
theorem decodeLossy_of_decode {bs : Bytes} {s : Text} (h : decode bs = .ok s) :
    decodeLossy bs = s :=
  decodeLossyFrom_of_decodeFrom h

/-! ## Reading what was written -/

/-- Whether the machine waits for the last `k + 1` bytes of a code, the next of which is in the
range. -/
structure Pending.Awaits (p : Pending) (v k : Nat) : Prop where
  owed : p.owed = k + 1
  code : p.code = v / 64 ^ (k + 1)
  low : p.low.toNat ≤ v / 64 ^ k % 64 + 0x80
  high : v / 64 ^ k % 64 + 0x80 ≤ p.high.toNat

theorem toNat_tailByte (v k : Nat) :
    (UInt8.ofNat (v / 64 ^ k % 64 + 0x80)).toNat = v / 64 ^ k % 64 + 0x80 := by
  rw [UInt8.toNat_ofNat']
  omega

/-- The bytes that the machine waits for complete the character. -/
theorem Pending.Awaits.decodeFrom {p : Pending} {v k : Nat} (hp : p.Awaits v k) {bs : Bytes}
    {s : Text} (hbs : ∀ start, decodeFrom start 0 none bs = .ok s) (start taken : Nat) :
    decodeFrom start taken (some p) (tailBytes v (k + 1) ++ bs) = .ok (Char.ofNat v :: s) := by
  induction k generalizing p taken with
  | zero =>
    have bits := toNat_tailByte v 0
    have inside : (p.low ≤ UInt8.ofNat (v / 64 ^ 0 % 64 + 0x80)
        && UInt8.ofNat (v / 64 ^ 0 % 64 + 0x80) ≤ p.high) = true := by
      simp only [Bool.and_eq_true, decide_eq_true_eq, UInt8.le_iff_toNat_le, bits]
      exact ⟨hp.low, hp.high⟩
    have whole : 64 * p.code + (v / 64 ^ 0 % 64 + 0x80 - 0x80) = v := by
      have := hp.code
      omega
    have last : step (some p) (UInt8.ofNat (v / 64 ^ 0 % 64 + 0x80)) = .char (Char.ofNat v) := by
      simp only [step, Option.elim_some, next, inside, if_true, bits, whole, hp.owed, Nat.zero_add,
        Nat.le_refl]
    rw [tailBytes, List.cons_append, decodeFrom_cons_of_char last, tailBytes, List.nil_append, hbs]
    rfl
  | succ k ih =>
    have bits := toNat_tailByte v (k + 1)
    have inside : (p.low ≤ UInt8.ofNat (v / 64 ^ (k + 1) % 64 + 0x80)
        && UInt8.ofNat (v / 64 ^ (k + 1) % 64 + 0x80) ≤ p.high) = true := by
      simp only [Bool.and_eq_true, decide_eq_true_eq, UInt8.le_iff_toNat_le, bits]
      exact ⟨hp.low, hp.high⟩
    have upper : 64 * p.code + (v / 64 ^ (k + 1) % 64 + 0x80 - 0x80) = v / 64 ^ (k + 1) := by
      have := hp.code
      rw [Nat.pow_succ 64 (k + 1), ← Nat.div_div_eq_div_mul] at this
      omega
    have more : ¬ p.owed ≤ 1 := by
      have := hp.owed
      omega
    have goesOn : step (some p) (UInt8.ofNat (v / 64 ^ (k + 1) % 64 + 0x80))
        = .more ⟨p.owed - 1, 0x80, 0xBF, v / 64 ^ (k + 1)⟩ := by
      simp only [step, Option.elim_some, next, inside, if_true, bits, upper, more, if_false]
    rw [tailBytes, List.cons_append, decodeFrom_cons_of_more goesOn]
    refine ih ⟨?_, rfl, ?_, ?_⟩ (taken + 1)
    · simp [hp.owed]
    · exact Nat.le_add_left _ _
    · have : v / 64 ^ k % 64 < 64 := Nat.mod_lt _ (by decide)
      exact Nat.add_le_add_right (by omega) _

theorem first_two : ∀ n < 32, 2 ≤ n →
    first (UInt8.ofNat (n + 0xC0)) = .more ⟨1, 0x80, 0xBF, n⟩ := by decide

theorem first_three : ∀ n < 16, first (UInt8.ofNat (n + 0xE0))
    = .more ⟨2, if n = 0 then 0xA0 else 0x80, if n = 0xD then 0x9F else 0xBF, n⟩ := by decide

theorem first_four : ∀ n < 5, first (UInt8.ofNat (n + 0xF0))
    = .more ⟨3, if n = 0 then 0x90 else 0x80, if n = 4 then 0x8F else 0xBF, n⟩ := by decide

/-- The first byte of a character of several bytes announces the others. -/
theorem exists_first {v : Nat} (valid : v.isValidChar) (long : 0x80 ≤ v) :
    ∃ b p k, String.utf8EncodeChar (Char.ofNat v) = b :: tailBytes v (k + 1)
      ∧ first b = .more p ∧ p.Awaits v k := by
  have bounded : v < 0xD800 ∨ 0xDFFF < v ∧ v < 0x110000 := valid
  have choose : ∀ {c : Prop} [Decidable c] {x y : UInt8},
      (if c then x else y).toNat = if c then x.toNat else y.toNat := by
    intro c _ x y
    split <;> rfl
  by_cases two : v < 0x800
  · refine ⟨_, _, 0, encodeChar_two long two, first_two _ (by omega) (by omega), rfl, rfl, ?_, ?_⟩
    · exact Nat.le_add_left _ _
    · show _ ≤ 191
      omega
  by_cases three : v < 0x10000
  · refine ⟨_, _, 1, encodeChar_three (by omega) three valid, first_three _ (by omega), rfl, rfl,
      ?_, ?_⟩
    · show (if v / 4096 = 0 then (0xA0 : UInt8) else 0x80).toNat ≤ _
      rw [choose]
      show (if v / 4096 = 0 then 160 else 128) ≤ _
      split <;> omega
    · show _ ≤ (if v / 4096 = 0xD then (0x9F : UInt8) else 0xBF).toNat
      rw [choose]
      show _ ≤ (if v / 4096 = 13 then 159 else 191)
      split <;> omega
  · refine ⟨_, _, 2, encodeChar_four (by omega) (by omega), first_four _ (by omega), rfl, rfl,
      ?_, ?_⟩
    · show (if v / 262144 = 0 then (0x90 : UInt8) else 0x80).toNat ≤ _
      rw [choose]
      show (if v / 262144 = 0 then 144 else 128) ≤ _
      split <;> omega
    · show _ ≤ (if v / 262144 = 4 then (0x8F : UInt8) else 0xBF).toNat
      rw [choose]
      show _ ≤ (if v / 262144 = 4 then 143 else 191)
      split <;> omega

theorem decodeFrom_encode (s : Text) (start : Nat) :
    decodeFrom start 0 none (encode s) = .ok s := by
  induction s generalizing start with
  | nil => rfl
  | cons c s ih =>
    have valid : c.toNat.isValidChar := c.valid
    rw [encode, List.flatMap_cons, ← encode]
    by_cases short : c.toNat < 0x80
    · have one := encodeChar_one short
      have ascii : UInt8.ofNat c.toNat < 0x80 := by
        rw [UInt8.lt_iff_toNat_lt, UInt8.toNat_ofNat', Nat.mod_eq_of_lt (by omega)]
        exact short
      have back : Char.ofNat (UInt8.ofNat c.toNat).toNat = c := by
        rw [UInt8.toNat_ofNat', Nat.mod_eq_of_lt (by omega), Char.ofNat_toNat]
      rw [Char.ofNat_toNat] at one
      have read : step none (UInt8.ofNat c.toNat) = .char c := by
        simp only [step, Option.elim_none, first, ascii, if_true, back]
      rw [one, List.singleton_append, decodeFrom_cons_of_char read, ih]
      rfl
    · obtain ⟨b, p, k, bytes, announced, hp⟩ := exists_first valid (Nat.not_lt.1 short)
      rw [Char.ofNat_toNat] at bytes
      have rest := hp.decodeFrom ih start 1
      rw [Char.ofNat_toNat] at rest
      have begun : step none b = .more p := announced
      rw [bytes, List.cons_append, decodeFrom_cons_of_more begun]
      exact rest

theorem decode_encode (s : Text) : decode (encode s) = .ok s := decodeFrom_encode s 0

theorem encode_injective : Function.Injective encode := fun s t h =>
  Except.ok.inj ((decode_encode s).symm.trans ((congrArg decode h).trans (decode_encode t)))

theorem decodeLossy_encode (s : Text) : decodeLossy (encode s) = s :=
  decodeLossy_of_decode (decode_encode s)

end Utf8

end LogMigration
