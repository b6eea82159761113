import LogMigration.Proofs.FileUpdate
import LogMigration.Proofs.Occurrence
import LogMigration.Proofs.Utf8Decoding
import LogMigration.Scan.Builtin
import Mathlib.Data.List.Infix

/-!
# Lines of bytes and lines of the text that they are read as

Bytes that are no UTF-8 are read with replacements.  Whatever the bytes are, each one below 0x80 is
read as its character and nothing else is read as one, so what is written in such characters stands
in the text exactly where it stands in the bytes.

* `Utf8.Reached` — what can be pending after some bytes.
* `Utf8.decodeLossyFrom_append_cons` — a byte below 0x80 divides the bytes and the text alike.
* `Utf8.exists_of_decodeLossyFrom_eq` — each character below 0x80 comes from such a byte.
* `Utf8.infix_decodeLossy_iff` — where a text of such characters stands.
* `Console.count_eq_countP_readLines` — lines as a line reader gives them hold the same statements.
* `Console.count_decodeLossy` — the lines of the text with a statement are those of the bytes.
* `Builtin.count_eq_byte_lines` — the count of a file, whatever it holds.
-/

set_option autoImplicit false

namespace LogMigration

namespace Utf8

/-! ## Bytes below 0x80 -/

/-- Whether there are bytes after which this is pending. -/
def Reached (pending : Option Pending) : Prop := ∃ front, Trails front pending

theorem reached_none : Reached none := ⟨[], trails_nil⟩

theorem Reached.of_more {pending : Option Pending} (h : Reached pending) {b : UInt8} {p : Pending}
    (hstep : step pending b = .more p) : Reached (some p) := by
  obtain ⟨front, hfront⟩ := h
  exact ⟨front ++ [b], hfront.of_more hstep⟩

/-- Whether no character of the text is below 0x80. -/
def IsHigh (t : Text) : Prop := ∀ c ∈ t, 0x80 ≤ c.toNat

theorem isHigh_nil : IsHigh [] := fun _ hc => absurd hc List.not_mem_nil

theorem isHigh_replacement : IsHigh [replacement] := by
  intro c hc
  obtain rfl := List.mem_singleton.1 hc
  decide

theorem isHigh_decodeLossyFrom_nil (pending : Option Pending) :
    IsHigh (decodeLossyFrom pending []) := by
  cases pending with
  | none => exact isHigh_nil
  | some p => exact isHigh_replacement

theorem IsHigh.exists_of_append_eq {t rest u v : Text} (ht : IsHigh t) {c : Char}
    (hc : c.toNat < 0x80) (h : t ++ rest = u ++ c :: v) :
    ∃ w, u = t ++ w ∧ rest = w ++ c :: v := by
  rcases List.append_eq_append_iff.1 h with ⟨w, hu, hrest⟩ | ⟨w, rfl, hrest⟩
  · exact ⟨w, hu, hrest⟩
  · cases w with
    | nil => exact ⟨[], by simp, hrest.symm⟩
    | cons d w =>
      obtain ⟨rfl, -⟩ := List.cons.inj hrest
      exact absurd hc (Nat.not_lt.2 (ht c (by simp)))

section Read

variable {pending : Option Pending} (hp : Reached pending) {b : UInt8}

include hp

/-- A byte below 0x80 breaks off what is pending and is read as its character. -/
theorem readByte_low (hb : b < 0x80) :
    readByte pending b = (decodeLossyFrom pending [] ++ [Char.ofNat b.toNat], none) := by
  have char : first b = .char (Char.ofNat b.toNat) := if_pos hb
  cases pending with
  | none =>
    rw [readByte, readFirst, char]
    rfl
  | some p =>
    obtain ⟨front, hfront⟩ := hp
    have range : ¬ p.low ≤ b := by
      have low : 0x80 ≤ p.low.toNat := Pending.Follows.low hfront
      have high : b.toNat < 0x80 := UInt8.lt_iff_toNat_lt.1 hb
      rw [UInt8.le_iff_toNat_le]
      omega
    have broken : next p b = .refuse := if_neg (by simp [range])
    simp only [readByte, broken, readFirst, char]
    rfl

/-- Any other byte is read as no character below 0x80. -/
theorem readByte_high (hb : 0x80 ≤ b) :
    IsHigh (readByte pending b).1 ∧ Reached (readByte pending b).2 := by
  have alone : IsHigh (readFirst b).1 ∧ Reached (readFirst b).2 := by
    unfold readFirst
    cases hfirst : first b with
    | char c =>
      rw [first, if_neg (UInt8.not_lt.2 hb)] at hfirst
      split at hfirst <;> cases hfirst
    | more p => exact ⟨isHigh_nil, reached_none.of_more hfirst⟩
    | refuse => exact ⟨isHigh_replacement, reached_none⟩
  cases hstep : step pending b with
  | char c =>
    rw [readByte_of_char hstep]
    refine ⟨fun d hd => ?_, reached_none⟩
    obtain rfl := List.mem_singleton.1 hd
    -- A character below 0x80 is written in one byte, which would be this one.
    by_contra hlow
    obtain ⟨front, hfront⟩ := hp
    have one := encodeChar_one (Nat.not_le.1 hlow)
    rw [Char.ofNat_toNat, hfront.encode_char hstep] at one
    have byte : b = UInt8.ofNat d.toNat := by simpa using congrArg List.getLast? one
    rw [byte, UInt8.le_iff_toNat_le, UInt8.toNat_ofNat', Nat.mod_eq_of_lt (by omega)] at hb
    exact hlow hb
  | more p =>
    rw [readByte_of_more hstep]
    exact ⟨isHigh_nil, hp.of_more hstep⟩
  | refuse =>
    cases pending with
    | none => exact alone
    | some p =>
      simp only [readByte, show next p b = .refuse from hstep]
      exact ⟨List.forall_mem_cons.2 ⟨isHigh_replacement _ (by simp), alone.1⟩, alone.2⟩

theorem reached_readByte (b : UInt8) : Reached (readByte pending b).2 := by
  by_cases hb : b < 0x80
  · rw [readByte_low hp hb]
    exact reached_none
  · exact (readByte_high hp (UInt8.not_lt.1 hb)).2

/-- A byte below 0x80 divides the bytes, and its character divides the text they are read as. -/
theorem decodeLossyFrom_append_cons (hb : b < 0x80) (x y : Bytes) :
    decodeLossyFrom pending (x ++ b :: y)
      = decodeLossyFrom pending x ++ Char.ofNat b.toNat :: decodeLossyFrom none y := by
  induction x generalizing pending with
  | nil =>
    rw [List.nil_append, decodeLossyFrom, readByte_low hp hb, List.append_assoc]
    rfl
  | cons a x ih =>
    rw [List.cons_append, decodeLossyFrom, ih (reached_readByte hp a), decodeLossyFrom,
      List.append_assoc]

end Read

theorem decodeLossyFrom_eq_nil {pending : Option Pending} {bs : Bytes}
    (h : decodeLossyFrom pending bs = []) : pending = none ∧ bs = [] := by
  induction bs generalizing pending with
  | nil =>
    cases pending with
    | none => exact ⟨rfl, rfl⟩
    | some p => cases h
  | cons b bs ih =>
    rw [decodeLossyFrom, List.append_eq_nil_iff] at h
    -- A byte that is read as nothing by itself leaves something pending.
    have ended := (ih h.2).1
    cases hstep : step pending b with
    | char c => simp [readByte_of_char hstep] at h
    | more p => simp [readByte_of_more hstep] at ended
    | refuse =>
      cases pending with
      | none => simp [readByte, readFirst, show first b = .refuse from hstep] at h
      | some p => simp [readByte, show next p b = .refuse from hstep] at h

theorem decodeLossy_eq_nil {bs : Bytes} (h : decodeLossy bs = []) : bs = [] :=
  (decodeLossyFrom_eq_nil h).2

theorem ofNat_toNat_ofNat {b : UInt8} (hb : b < 0x80) :
    UInt8.ofNat (Char.ofNat b.toNat).toNat = b := by
  have low : b.toNat < 0x80 := UInt8.lt_iff_toNat_lt.1 hb
  have code : (Char.ofNat b.toNat).toNat = b.toNat := toNat_val_ofNat (.inl (by omega))
  rw [code, UInt8.ofNat_toNat]

/-- Each character below 0x80 comes from its byte, and what is around it from what is around the
byte. -/
theorem exists_of_decodeLossyFrom_eq {pending : Option Pending} (hp : Reached pending) {bs : Bytes}
    {u v : Text} {c : Char} (hc : c.toNat < 0x80) (h : decodeLossyFrom pending bs = u ++ c :: v) :
    ∃ x y, bs = x ++ UInt8.ofNat c.toNat :: y ∧ decodeLossyFrom pending x = u
      ∧ decodeLossy y = v := by
  induction bs generalizing pending u with
  | nil =>
    have high := isHigh_decodeLossyFrom_nil pending c (by simp [h])
    omega
  | cons b bs ih =>
    rw [decodeLossyFrom] at h
    by_cases hb : b < 0x80
    · rw [readByte_low hp hb, List.append_assoc] at h
      obtain ⟨w, rfl, hw⟩ := (isHigh_decodeLossyFrom_nil pending).exists_of_append_eq hc h
      cases w with
      | nil =>
        obtain ⟨rfl, rfl⟩ := List.cons.inj hw
        exact ⟨[], bs, by rw [ofNat_toNat_ofNat hb]; rfl, (List.append_nil _).symm, rfl⟩
      | cons d w =>
        obtain ⟨rfl, hrest⟩ := List.cons.inj hw
        obtain ⟨x, y, rfl, hx, hy⟩ := ih reached_none hrest
        refine ⟨b :: x, y, rfl, ?_, hy⟩
        rw [decodeLossyFrom, readByte_low hp hb, List.append_assoc]
        exact congrArg (fun t => decodeLossyFrom pending [] ++ Char.ofNat b.toNat :: t) hx
    · obtain ⟨high, reached⟩ := readByte_high hp (UInt8.not_lt.1 hb)
      obtain ⟨w, rfl, hw⟩ := high.exists_of_append_eq hc h
      obtain ⟨x, y, rfl, hx, hy⟩ := ih reached hw
      exact ⟨b :: x, y, rfl, by rw [decodeLossyFrom, hx], hy⟩

/-! ## Texts of characters below 0x80 -/

/-- Whether all characters of the text are below 0x80. -/
def IsLow (t : Text) : Prop := ∀ c ∈ t, c.toNat < 0x80

instance (t : Text) : Decidable (IsLow t) :=
  List.decidableBAll (fun c : Char => c.toNat < 0x80) t

theorem encode_cons_low {c : Char} (hc : c.toNat < 0x80) (t : Text) :
    encode (c :: t) = UInt8.ofNat c.toNat :: encode t := by
  have one := encodeChar_one hc
  rw [Char.ofNat_toNat] at one
  rw [encode_cons, one, List.singleton_append]

theorem byte_low {c : Char} (hc : c.toNat < 0x80) :
    UInt8.ofNat c.toNat < 0x80 ∧ Char.ofNat (UInt8.ofNat c.toNat).toNat = c := by
  have code : (UInt8.ofNat c.toNat).toNat = c.toNat := by
    rw [UInt8.toNat_ofNat', Nat.mod_eq_of_lt (by omega)]
  refine ⟨UInt8.lt_iff_toNat_lt.2 ?_, ?_⟩
  · rw [code]
    exact hc
  · rw [code, Char.ofNat_toNat]

theorem decodeLossy_append_cons {c : Char} (hc : c.toNat < 0x80) (x y : Bytes) :
    decodeLossy (x ++ UInt8.ofNat c.toNat :: y) = decodeLossy x ++ c :: decodeLossy y := by
  have divided := decodeLossyFrom_append_cons reached_none (byte_low hc).1 x y
  rwa [(byte_low hc).2] at divided

theorem exists_of_decodeLossy_eq {bs : Bytes} {u v : Text} {c : Char} (hc : c.toNat < 0x80)
    (h : decodeLossy bs = u ++ c :: v) :
    ∃ x y, bs = x ++ UInt8.ofNat c.toNat :: y ∧ decodeLossy x = u ∧ decodeLossy y = v :=
  exists_of_decodeLossyFrom_eq reached_none hc h

theorem prefix_decodeLossy_iff {t : Text} (ht : IsLow t) {bs : Bytes} :
    t <+: decodeLossy bs ↔ encode t <+: bs := by
  induction t generalizing bs with
  | nil => simp [encode]
  | cons c t ih =>
    obtain ⟨hc, ht⟩ := List.forall_mem_cons.1 ht
    rw [encode_cons_low hc]
    constructor
    · rintro ⟨v, hv⟩
      obtain ⟨x, y, rfl, hx, hy⟩ := exists_of_decodeLossy_eq (u := []) hc hv.symm
      rw [decodeLossy_eq_nil hx]
      exact (List.prefix_cons_inj _).2 ((ih ht).1 ⟨v, hy.symm⟩)
    · rintro ⟨y, rfl⟩
      have divided := decodeLossy_append_cons hc [] (encode t ++ y)
      rw [List.nil_append] at divided
      rw [List.cons_append, divided]
      exact (List.prefix_cons_inj _).2 ((ih ht).2 (List.prefix_append _ _))

/-- A text of characters below 0x80 stands in what bytes are read as exactly if its bytes stand
there. -/
theorem infix_decodeLossy_iff {t : Text} (ht : IsLow t) {bs : Bytes} :
    t <:+: decodeLossy bs ↔ encode t <:+: bs := by
  cases t with
  | nil => simp [encode]
  | cons c t =>
    obtain ⟨hc, ht⟩ := List.forall_mem_cons.1 ht
    rw [encode_cons_low hc]
    constructor
    · rintro ⟨u, v, huv⟩
      rw [List.append_assoc] at huv
      obtain ⟨x, y, rfl, -, hy⟩ := exists_of_decodeLossy_eq hc huv.symm
      obtain ⟨z, rfl⟩ := (prefix_decodeLossy_iff ht).1 ⟨v, hy.symm⟩
      exact ⟨x, z, by simp⟩
    · rintro ⟨x, z, rfl⟩
      obtain ⟨v, hv⟩ := (prefix_decodeLossy_iff ht).2 (List.prefix_append (encode t) z)
      rw [List.append_assoc, List.cons_append, decodeLossy_append_cons hc, ← hv]
      exact ⟨decodeLossy x, v, by simp⟩

end Utf8

namespace Console

open Utf8

/-! ## Lines -/

theorem splitBytes_eq (isEnd : UInt8 → Bool) (bs : Bytes) :
    splitBytes isEnd bs = bs.splitOnP isEnd := by
  induction bs with
  | nil => rfl
  | cons b bs ih =>
    obtain ⟨l, ls, hl⟩ := List.exists_cons_of_ne_nil (List.splitOnP_ne_nil isEnd bs)
    rw [splitBytes, ih, List.splitOnP_cons_eq_if_modifyHead, hl]
    rfl

theorem lines_decodeLossy (bs : Bytes) :
    Text.lines (decodeLossy bs) = (splitBytes (· = 0x0A) bs).map decodeLossy := by
  have newline : ∀ x y : Bytes,
      decodeLossy (x ++ 0x0A :: y) = decodeLossy x ++ '\n' :: decodeLossy y :=
    decodeLossy_append_cons (c := '\n') (by decide)
  have inside : ∀ {x : Bytes}, 0x0A ∉ x → ∀ b ∈ x, decide (b = 0x0A) = false :=
    fun hx b hb => decide_eq_false (ne_of_mem_of_not_mem hb hx)
  -- Bytes without a newline are read as one line.
  have line : ∀ {x : Bytes}, 0x0A ∉ x → Text.lines (decodeLossy x) = [decodeLossy x] := by
    intro x hx
    refine Text.splitAt_of_notMem fun hmem => ?_
    obtain ⟨u, v, huv⟩ := List.append_of_mem hmem
    obtain ⟨front, back, rfl, -, -⟩ := exists_of_decodeLossy_eq (by decide) huv
    exact hx (List.mem_append_right front List.mem_cons_self)
  rw [splitBytes_eq]
  induction hlength : bs.length using Nat.strong_induction_on generalizing bs with
  | _ n ih =>
    by_cases hmem : 0x0A ∈ bs
    · obtain ⟨x, y, rfl, hx⟩ := List.eq_append_cons_of_mem hmem
      have shorter : y.length < n := by
        rw [← hlength, List.length_append, List.length_cons]
        omega
      rw [List.splitOnP_append_cons_of_forall_mem (inside hx) _ rfl, List.map_cons,
        ← ih _ shorter y rfl, newline, Text.lines, Text.splitAt_append_cons, ← Text.lines,
        ← Text.lines, line hx]
      rfl
    · rw [List.splitOnP_eq_singleton (inside hmem), line hmem]
      rfl

theorem mentions_iff {s : Text} : mentions s = true ↔ ∃ m : Method, m.head <:+: s := by
  simp only [mentions, Text.anySuffix_iff, startsStatement_iff]
  constructor
  · rintro ⟨u, v, rfl, m, t, rfl⟩
    exact ⟨m, u, t, by simp⟩
  · rintro ⟨m, u, t, rfl⟩
    exact ⟨u, m.head ++ t, List.append_assoc .., m, List.prefix_append ..⟩

theorem startsStatementBytes_iff {bs : Bytes} :
    startsStatementBytes bs = true ↔ ∃ m : Method, encode m.head <+: bs := by
  simp only [startsStatementBytes, List.any_eq_true, List.isPrefixOf_iff_prefix]
  constructor
  · rintro ⟨m, -, hm⟩
    exact ⟨m, hm⟩
  · rintro ⟨m, hm⟩
    exact ⟨m, by cases m <;> simp, hm⟩

theorem mentionsBytes_iff {bs : Bytes} :
    mentionsBytes bs = true ↔ ∃ m : Method, encode m.head <:+: bs := by
  have something : ∀ m : Method, encode m.head ≠ [] := fun m => by cases m <;> decide
  induction bs with
  | nil => simp [mentionsBytes, something]
  | cons b bs ih =>
    simp only [mentionsBytes, Bool.or_eq_true, startsStatementBytes_iff, ih, List.infix_cons_iff,
      exists_or]

theorem mentions_decodeLossy (bs : Bytes) : mentions (decodeLossy bs) = mentionsBytes bs := by
  have low : ∀ m : Method, IsLow m.head := fun m => by cases m <;> decide
  rw [Bool.eq_iff_iff, mentions_iff, mentionsBytes_iff]
  exact exists_congr fun m => infix_decodeLossy_iff (low m)

/-- The lines of the text with a statement are those of the bytes. -/
theorem count_decodeLossy (bs : Bytes) : count (decodeLossy bs) = countBytes bs := by
  rw [count, lines_decodeLossy, List.countP_map, countBytes]
  exact List.countP_congr fun line _ => by rw [Function.comp_apply, mentions_decodeLossy]

/-- The same number, without the program's own way of splitting and searching. -/
theorem countBytes_eq (bs : Bytes) : countBytes bs = (bs.splitOn 0x0A).countP fun line =>
    [Method.log, .error, .warn].any fun m => decide (encode m.head <:+: line) := by
  have same : (bs.splitOn 0x0A) = splitBytes (· = 0x0A) bs := by
    rw [splitBytes_eq, List.splitOn_eq_splitOnP]
    rfl
  rw [countBytes, same]
  refine List.countP_congr fun line _ => ?_
  rw [mentionsBytes_iff]
  simp only [List.any_eq_true, decide_eq_true_eq]
  exact ⟨fun ⟨m, hm⟩ => ⟨m, by cases m <;> simp, hm⟩, fun ⟨m, _, hm⟩ => ⟨m, hm⟩⟩

/-! ## Lines as a line reader gives them -/

theorem mentions_append_return (l : Text) : mentions (l ++ ['\r']) = mentions l := by
  have outside : ∀ m : Method, '\r' ∉ m.head := fun m => by cases m <;> decide
  rw [Bool.eq_iff_iff, mentions_iff_occurrences_pos, mentions_iff_occurrences_pos,
    occurrences_append_cons outside]
  rfl

theorem mentions_dropSuffix_return (l : Text) :
    mentions (Text.dropSuffix ['\r'] l) = mentions l := by
  unfold Text.dropSuffix
  cases h : Text.dropPrefix? ['\r'].reverse l.reverse with
  | none => rfl
  | some t =>
    have ending : l = t.reverse ++ ['\r'] := by
      have back := congrArg List.reverse (Text.eq_append_of_dropPrefix? h)
      simpa using back
    dsimp only
    rw [ending, mentions_append_return]

/-- A carriage return in front of a newline and an empty rest behind the last newline make no
difference to the number of lines with a statement. -/
theorem count_eq_countP_readLines (s : Text) : count s = (Text.readLines s).countP mentions := by
  obtain ⟨front, last, hlines⟩ : ∃ front last, Text.lines s = front ++ [last] := by
    rcases List.eq_nil_or_concat (Text.lines s) with h | ⟨front, last, h⟩
    · exact absurd h (Text.lines_ne_nil s)
    · exact ⟨front, last, by rw [h, List.concat_eq_append]⟩
  have ended : ([last].filter (· ≠ [])).countP mentions = [last].countP mentions := by
    by_cases h : last = []
    · subst h
      rfl
    · rw [List.filter_singleton]
      simp [h]
  rw [count, Text.readLines, hlines, List.dropLast_concat, List.getLast?_concat, Option.toList_some,
    List.countP_append, List.countP_append, ended, List.countP_map]
  exact congrArg (· + _) (List.countP_congr fun l _ => by
    rw [Function.comp_apply, mentions_dropSuffix_return])

end Console

/-- The count of a file, whatever bytes it holds, is the number of its parts between newline bytes
that hold the bytes of a statement.  It is also the number of lines with a statement that a line
reader finds in the text that the bytes are read as. -/
theorem Builtin.count_eq_byte_lines {w : Workspace} {p : Path} {bytes : Bytes}
    (h : w.read p = .ok bytes) :
    let n := (bytes.splitOn 0x0A).countP fun line =>
      [Console.Method.log, .error, .warn].any fun m => decide (Utf8.encode m.head <:+: line)
    Builtin.count w p = .ok n ∧ Console.countBytes bytes = n
      ∧ (Text.readLines (Utf8.decodeLossy bytes)).countP Console.mentions = n := by
  intro n
  have figure : Console.countBytes bytes = n := Console.countBytes_eq bytes
  rw [← figure]
  refine ⟨?_, rfl, ?_⟩
  · rw [Builtin.count, h, ← Console.count_decodeLossy]
  · rw [← Console.count_eq_countP_readLines, Console.count_decodeLossy]

/-- A file with a character that is cut short in front of a statement, a byte that belongs to no
character inside another one, and a carriage return in front of a newline: two of the three lines
hold a statement. -/
theorem Builtin.count_broken_characters :
    let bytes := [0xE2, 0x82] ++ Utf8.encode "console.log('x');\r\nconsole.".toList
      ++ [0xFF] ++ Utf8.encode "log\nconsole.warn".toList ++ [0xC3]
    let w : Workspace := { tree := ⟨[(["a.js".toList], .file bytes false)]⟩ }
    w.read ⟨"a.js".toList⟩ = .ok bytes ∧ Builtin.count w ⟨"a.js".toList⟩ = .ok 2 := by
  intro bytes w
  have wellFormed : w.tree.WellFormed :=
    ⟨by decide +kernel, by decide +kernel, by decide +kernel⟩
  have here : w.tree.get? ["a.js".toList] = some (.file bytes false) := by decide +kernel
  have way : w.tree.resolve w.cwd ⟨"a.js".toList⟩ true = .ok ["a.js".toList] :=
    wellFormed.resolve_relative rfl (by decide) (by decide) (by decide +kernel) here (by simp)
  have content : w.read ⟨"a.js".toList⟩ = .ok bytes := Workspace.read_of_resolve way here
  obtain ⟨counted, figure, -⟩ := Builtin.count_eq_byte_lines content
  refine ⟨content, ?_⟩
  rw [counted, ← figure]
  decide +kernel

end LogMigration
