import LogMigration.Call.Conversion
import Mathlib.Data.List.TakeWhile

/-!
# A rule passing over a text

A call begins with `console.`, a method and a bracket directly in front of a quote.  A rule therefore
decides at each quote whether a call begins there, from what stands in front of the quote and what
follows it.

* `Rule.body?` — a call from its message on; `match?_head_append` says that it decides the match.
* `begins_iff` — a rule matches at the start of a text when the text opens a call and goes on with
  a body.
* `snd_apply_eq_zero_iff` — a rule has no hits exactly when it matches nowhere in the text.
* `pieces_of_quoteFree`, `pieces_miss`, `pieces_hit` — how a rule divides a text up to the next quote,
  when no call begins at that quote, and when one does.
* `apply_of_copied`, `apply_of_call` — what the rule makes of a text from how it divides it.
* `Rule.Replaces` — where in a text the rule replaces a call.
-/

set_option autoImplicit false

namespace LogMigration

namespace Text

theorem contains_iff {p s : Text} : contains p s = true ↔ p <:+: s := by
  simp only [contains, anySuffix_iff, startsWith, Option.isSome_iff_exists,
    dropPrefix?_eq_some_iff]
  constructor
  · rintro ⟨a, _, rfl, b, rfl⟩
    exact ⟨a, b, List.append_assoc ..⟩
  · rintro ⟨a, b, rfl⟩
    exact ⟨a, p ++ b, List.append_assoc .., b, rfl⟩

theorem prefix_append_cases {p s t : Text} (h : p <+: s ++ t) :
    p <+: s ∨ ∃ v, v ≠ [] ∧ p = s ++ v ∧ v <+: t := by
  obtain ⟨u, hu⟩ := h
  rcases List.append_eq_append_iff.1 hu with ⟨d, hs, -⟩ | ⟨d, hp, ht⟩
  · exact .inl ⟨d, hs.symm⟩
  · cases d with
    | nil => exact .inl ⟨[], by simpa using hp⟩
    | cons c d => exact .inr ⟨c :: d, by simp, hp, u, ht.symm⟩

theorem suffix_append_cases {p s t : Text} (h : p <:+ s ++ t) :
    p <:+ t ∨ ∃ v, v ≠ [] ∧ p = v ++ t ∧ v <:+ s := by
  obtain ⟨u, hu⟩ := h
  rcases List.append_eq_append_iff.1 hu with ⟨d, hs, hp⟩ | ⟨d, -, ht⟩
  · cases d with
    | nil => exact .inl ⟨[], by simpa using hp⟩
    | cons c d => exact .inr ⟨c :: d, by simp, hp, u, hs.symm⟩
  · exact .inl ⟨d, ht.symm⟩

/-- Of two texts neither of which ends the other, one in front of which something is put still does
not end with the other. -/
theorem not_suffix_append {p t : Text} (hp : ¬ t <:+ p) (ht : ¬ p <:+ t) (s : Text) :
    ¬ p <:+ s ++ t := by
  intro h
  rcases suffix_append_cases h with h | ⟨v, -, hv, -⟩
  · exact ht h
  · exact hp ⟨v, hv.symm⟩

/-- A text without quotes. -/
def QuoteFree (s : Text) : Prop := ∀ q : Quote, q.char ∉ s

theorem quoteFree_nil : QuoteFree [] := fun _ => List.not_mem_nil

theorem quoteFree_append {s t : Text} : QuoteFree (s ++ t) ↔ QuoteFree s ∧ QuoteFree t := by
  simp only [QuoteFree, List.mem_append, not_or, forall_and]

theorem QuoteFree.of_suffix {s t : Text} (h : QuoteFree t) (hs : s <:+ t) : QuoteFree s :=
  fun q hq => h q (hs.subset hq)

/-- Two texts that are followed by marks, each without the other's mark, end at the same place. -/
theorem append_cons_inj_first {c d : Char} {s t u v : Text} (hs : d ∉ s) (ht : c ∉ t)
    (h : s ++ c :: u = t ++ d :: v) : s = t ∧ c = d ∧ u = v := by
  rcases List.append_eq_append_iff.1 h with ⟨x, rfl, hx⟩ | ⟨x, rfl, hx⟩
  · cases x with
    | nil => simp_all
    | cons y x =>
      obtain ⟨rfl, -⟩ := List.cons.inj hx
      exact absurd (by simp) ht
  · cases x with
    | nil => simp_all
    | cons y x =>
      obtain ⟨rfl, -⟩ := List.cons.inj hx
      exact absurd (by simp) hs

end Text

theorem Quote.char_injective {p q : Quote} (h : p.char = q.char) : p = q := by
  cases p <;> cases q <;> first | rfl | exact absurd h (by decide)

namespace Console.Method

/-- A statement up to its opening bracket. -/
def opening (m : Method) : Text := m.head ++ ['(']

theorem quoteFree_opening (m : Method) : Text.QuoteFree m.opening := by
  intro q
  cases m <;> cases q <;> decide

end Console.Method

namespace Rule

/-! ## The parts of a call -/

theorem head_eq (r : Rule) : r.head = r.shape.consoleMethod.opening ++ [r.quote.char] := by
  simp [head, Console.Method.opening]

/-- A call from its message on: the message, the rest of the call behind the closing quote, and what
follows the call. -/
def body? (r : Rule) (s : Text) : Option (Text × Text × Text) :=
  let message := s.takeWhile (· ≠ r.quote.char)
  if message = [] then none
  else
    (Text.dropPrefix? [r.quote.char] (s.dropWhile (· ≠ r.quote.char))).bind fun tail =>
      (r.shape.splitArguments? tail).map fun (arguments, rest) => (message, arguments, rest)

theorem match?_head_append (r : Rule) (s : Text) :
    r.match? (r.head ++ s) = (r.body? s).map fun (message, arguments, rest) =>
      (r.head ++ message ++ [r.quote.char] ++ arguments, message, rest) := by
  simp only [match?, Text.dropPrefix?_append, Option.bind_some, body?]
  split
  · rfl
  · simp only [Option.map_bind, Option.map_map, Function.comp_def]

theorem body?_append_cons (r : Rule) {message : Text} (h : r.quote.char ∉ message) (tail : Text) :
    r.body? (message ++ r.quote.char :: tail)
      = if message = [] then none
        else (r.shape.splitArguments? tail).map fun (arguments, rest) =>
          (message, arguments, rest) := by
  have before : ∀ c ∈ message, (decide (c ≠ r.quote.char)) = true := by
    intro c hc
    simpa using ne_of_mem_of_not_mem hc h
  simp only [body?, List.takeWhile_append_of_pos before, List.dropWhile_append_of_pos before]
  simp [Text.dropPrefix?]

theorem body?_of_notMem (r : Rule) {s : Text} (h : r.quote.char ∉ s) : r.body? s = none := by
  have all : ∀ c ∈ s, (decide (c ≠ r.quote.char)) = true := by
    intro c hc
    simpa using ne_of_mem_of_not_mem hc h
  have none_left : s.dropWhile (· ≠ r.quote.char) = [] := List.dropWhile_eq_nil_iff.2 all
  simp only [body?, none_left]
  simp [Text.dropPrefix?]

/-! ## Where a call begins -/

/-- Whether a call of the rule begins the text. -/
def begins (r : Rule) (s : Text) : Bool := (r.match? s).isSome

/-- Whether a call of the rule stands somewhere in the text. -/
def occursIn (r : Rule) (s : Text) : Bool := Text.anySuffix r.begins s

theorem begins_iff {r : Rule} {s : Text} :
    r.begins s = true ↔ ∃ z, s = r.head ++ z ∧ (r.body? z).isSome = true := by
  constructor
  · intro h
    obtain ⟨out, hout⟩ := Option.isSome_iff_exists.1 h
    obtain ⟨z, hz⟩ : ∃ z, Text.dropPrefix? r.head s = some z := by
      simp only [match?, Option.bind_eq_some_iff] at hout
      exact ⟨_, hout.choose_spec.1⟩
    have hs := Text.eq_append_of_dropPrefix? hz
    refine ⟨z, hs, ?_⟩
    simpa [begins, hs, match?_head_append] using h
  · rintro ⟨z, rfl, hz⟩
    simpa [begins, match?_head_append] using hz

/-- In a text whose first quote is marked, a call begins before that quote only if it begins right
in front of it. -/
theorem begins_append_cons_iff {r : Rule} {x z : Text} (hx : Text.QuoteFree x) (q : Quote) :
    r.begins (x ++ q.char :: z) = true
      ↔ x = r.shape.consoleMethod.opening ∧ q = r.quote ∧ (r.body? z).isSome = true := by
  rw [begins_iff]
  constructor
  · rintro ⟨y, heq, hy⟩
    rw [head_eq, List.append_assoc, List.singleton_append] at heq
    obtain ⟨hx', hq, rfl⟩ := Text.append_cons_inj_first (hx _)
      (Console.Method.quoteFree_opening _ _) heq
    exact ⟨hx', Quote.char_injective hq, hy⟩
  · rintro ⟨rfl, rfl, hz⟩
    exact ⟨z, by simp [head_eq], hz⟩

theorem not_begins_of_quoteFree {r : Rule} {x : Text} (hx : Text.QuoteFree x) :
    r.begins x = false := by
  rw [← Bool.not_eq_true, begins_iff]
  rintro ⟨z, rfl, -⟩
  exact hx r.quote (by simp [head_eq])

theorem occursIn_iff {r : Rule} {s : Text} :
    r.occursIn s = true ↔ ∃ a c, s = a ++ c ∧ r.begins c = true := Text.anySuffix_iff

/-! ## One pass -/

theorem pieces_cons_of_match? {r : Rule} {c : Char} {cs source message rest : Text}
    (h : r.match? (c :: cs) = some (source, message, rest)) :
    r.pieces (c :: cs) = .call source message :: r.pieces rest := by
  rw [pieces]
  split <;> simp_all

theorem pieces_cons_of_none {r : Rule} {c : Char} {cs : Text} (h : r.match? (c :: cs) = none) :
    r.pieces (c :: cs) = .copied c :: r.pieces cs := by
  rw [pieces]
  split <;> simp_all

theorem pieces_append_of_not_begins {r : Rule} {x t : Text}
    (h : ∀ v, v ≠ [] → v <:+ x → r.begins (v ++ t) = false) :
    r.pieces (x ++ t) = x.map .copied ++ r.pieces t := by
  induction x with
  | nil => rfl
  | cons c x ih =>
    have here : r.match? (c :: (x ++ t)) = none := by
      simpa [begins] using h (c :: x) (by simp) List.suffix_rfl
    have later := ih fun v hv hs => h v hv (hs.trans (List.suffix_cons c x))
    rw [List.cons_append, pieces_cons_of_none here, later]
    rfl

theorem snd_apply_eq_zero_iff (r : Rule) (s : Text) :
    (r.apply s).2 = 0 ↔ r.occursIn s = false := by
  simp only [apply, occursIn]
  fun_induction pieces r s with
  | case1 =>
    have : r.begins [] = false := not_begins_of_quoteFree Text.quoteFree_nil
    simp [Text.anySuffix, this]
  | case2 c cs source message rest h ih =>
    simp [Text.anySuffix, begins, h, Piece.isCall]
  | case3 c cs h ih =>
    simp [Text.anySuffix, begins, h, Piece.isCall, ih]

theorem fst_apply_of_snd_eq_zero {r : Rule} {s : Text} (h : (r.apply s).2 = 0) :
    (r.apply s).1 = s := by
  simp only [apply] at h ⊢
  fun_induction pieces r s with
  | case1 => rfl
  | case2 c cs source message rest hm ih => simp [Piece.isCall] at h
  | case3 c cs hm ih =>
    rw [List.flatMap_cons, ih (by simpa [Piece.isCall] using h)]
    rfl

/-! ## The pass from quote to quote -/

theorem pieces_of_quoteFree {r : Rule} {x : Text} (hx : Text.QuoteFree x) :
    r.pieces x = x.map .copied := by
  have h := pieces_append_of_not_begins (r := r) (x := x) (t := []) fun v _ hs => by
    rw [List.append_nil]
    exact not_begins_of_quoteFree (hx.of_suffix hs)
  simpa [pieces] using h

/-- A quote at which no call begins is copied, with the text in front of it. -/
theorem pieces_miss {r : Rule} {x z : Text} (hx : Text.QuoteFree x) {q : Quote}
    (h : q = r.quote → (r.body? z).isSome = true → ¬ r.shape.consoleMethod.opening <:+ x) :
    r.pieces (x ++ q.char :: z) = (x ++ [q.char]).map .copied ++ r.pieces z := by
  have skip : ∀ v, v ≠ [] → v <:+ x ++ [q.char] → r.begins (v ++ z) = false := by
    intro v hv hs
    rw [← Bool.not_eq_true]
    intro hb
    obtain ⟨y, rfl, hy⟩ := (List.suffix_concat_iff.1 hs).resolve_left hv
    rw [List.append_assoc, List.singleton_append,
      begins_append_cons_iff (hx.of_suffix hy)] at hb
    obtain ⟨rfl, hq, hz⟩ := hb
    exact h hq hz hy
  have := pieces_append_of_not_begins skip
  simpa using this

/-- A call is a piece of its own, and the text in front of it is copied. -/
theorem pieces_hit {r : Rule} {x z message arguments rest : Text} (hx : Text.QuoteFree x)
    (h : r.body? z = some (message, arguments, rest)) :
    r.pieces (x ++ (r.shape.consoleMethod.opening ++ r.quote.char :: z))
      = x.map .copied
        ++ .call (r.head ++ message ++ [r.quote.char] ++ arguments) message :: r.pieces rest := by
  have skip : ∀ v, v ≠ [] → v <:+ x →
      r.begins (v ++ (r.shape.consoleMethod.opening ++ r.quote.char :: z)) = false := by
    intro v hv hs
    rw [← Bool.not_eq_true, ← List.append_assoc]
    intro hb
    rw [begins_append_cons_iff (Text.quoteFree_append.2
      ⟨hx.of_suffix hs, Console.Method.quoteFree_opening _⟩)] at hb
    exact hv (List.append_left_eq_self.1 hb.1)
  have found := r.match?_head_append z
  rw [h, Option.map_some, head_eq, List.append_assoc, List.singleton_append] at found
  obtain ⟨c, cs, hc⟩ : ∃ c cs, r.shape.consoleMethod.opening ++ r.quote.char :: z = c :: cs :=
    List.exists_cons_of_ne_nil (by simp)
  rw [pieces_append_of_not_begins skip]
  rw [hc] at found ⊢
  rw [pieces_cons_of_match? found, head_eq]

theorem render_copied (r : Rule) (x : Text) : (x.map Piece.copied).flatMap r.render = x := by
  induction x with
  | nil => rfl
  | cons c x ih => rw [List.map_cons, List.flatMap_cons, ih]; rfl

theorem countP_copied (x : Text) : (x.map Piece.copied).countP Piece.isCall = 0 := by
  simp [List.countP_eq_zero, Piece.isCall]

theorem apply_of_quoteFree {r : Rule} {x : Text} (hx : Text.QuoteFree x) : r.apply x = (x, 0) := by
  simp only [apply, pieces_of_quoteFree hx, render_copied, countP_copied]

/-- Characters that are copied are part of what the rule makes of a text. -/
theorem apply_of_copied {r : Rule} {s x t : Text} (h : r.pieces s = x.map .copied ++ r.pieces t) :
    r.apply s = (x ++ (r.apply t).1, (r.apply t).2) := by
  simp only [apply, h, List.flatMap_append, render_copied, List.countP_append, countP_copied,
    Nat.zero_add]

/-- A call behind copied characters is replaced by the logger call, and counts one. -/
theorem apply_of_call {r : Rule} {s x t source message : Text}
    (h : r.pieces s = x.map .copied ++ .call source message :: r.pieces t) :
    r.apply s
      = (x ++ (r.binding ++ ".".toList ++ r.shape.loggerMethod ++ ['(', r.quote.char] ++ message
          ++ [r.quote.char] ++ r.shape.details ++ ");".toList ++ (r.apply t).1),
        (r.apply t).2 + 1) := by
  simp only [apply, h, List.flatMap_append, render_copied, List.flatMap_cons, replacement_eq,
    List.countP_append, countP_copied, List.countP_cons, Piece.isCall, if_true, Nat.zero_add]

/-! ## Where a call is replaced -/

/-- Whether the rule replaces the call that stands behind the text `a` in `s`. -/
def Replaces (r : Rule) (s a : Text) : Prop :=
  ∃ ps source message qs, r.pieces s = ps ++ .call source message :: qs
    ∧ ps.flatMap Piece.source = a

theorem source_copied (x : Text) : (x.map Piece.copied).flatMap Piece.source = x := by
  induction x with
  | nil => rfl
  | cons c x ih => rw [List.map_cons, List.flatMap_cons, ih]; rfl

/-- A call among pieces of which the first are copied stands behind these. -/
theorem append_copied_inj {x source message : Text} {rest ps qs : List Piece}
    (h : x.map .copied ++ rest = ps ++ .call source message :: qs) :
    ∃ ps', ps = x.map .copied ++ ps' ∧ rest = ps' ++ .call source message :: qs := by
  rcases List.append_eq_append_iff.1 h with ⟨d, rfl, hd⟩ | ⟨d, hd, hrest⟩
  · exact ⟨d, rfl, hd⟩
  · cases d with
    | nil => exact ⟨[], by simp [hd], hrest.symm⟩
    | cons p d =>
      obtain ⟨rfl, -⟩ := List.cons.inj hrest
      have : Piece.call source message ∈ x.map Piece.copied := by simp [hd]
      simp at this

theorem not_replaces_of_quoteFree {r : Rule} {x : Text} (hx : Text.QuoteFree x) (a : Text) :
    ¬ r.Replaces x a := by
  rintro ⟨ps, source, message, qs, h, -⟩
  rw [pieces_of_quoteFree hx, ← List.append_nil (x.map Piece.copied)] at h
  obtain ⟨ps', -, hnil⟩ := append_copied_inj h
  simp at hnil

theorem replaces_of_copied {r : Rule} {s x t a : Text}
    (h : r.pieces s = x.map .copied ++ r.pieces t) :
    r.Replaces s a ↔ ∃ a', r.Replaces t a' ∧ a = x ++ a' := by
  constructor
  · rintro ⟨ps, source, message, qs, hps, rfl⟩
    obtain ⟨ps, rfl, ht⟩ := append_copied_inj (h.symm.trans hps)
    exact ⟨_, ⟨ps, source, message, qs, ht, rfl⟩, by simp [source_copied]⟩
  · rintro ⟨_, ⟨ps, source, message, qs, ht, rfl⟩, rfl⟩
    exact ⟨x.map .copied ++ ps, source, message, qs, by rw [h, ht, List.append_assoc],
      by simp [source_copied]⟩

theorem replaces_of_call {r : Rule} {s x t a source message : Text}
    (h : r.pieces s = x.map .copied ++ .call source message :: r.pieces t) :
    r.Replaces s a ↔ a = x ∨ ∃ a', r.Replaces t a' ∧ a = x ++ source ++ a' := by
  constructor
  · rintro ⟨ps, source', message', qs, hps, rfl⟩
    obtain ⟨ps, rfl, ht⟩ := append_copied_inj (h.symm.trans hps)
    cases ps with
    | nil => exact .inl (by simp [source_copied])
    | cons p ps =>
      obtain ⟨rfl, ht'⟩ := List.cons.inj ht
      exact .inr ⟨_, ⟨ps, source', message', qs, ht', rfl⟩, by simp [source_copied, Piece.source]⟩
  · rintro (rfl | ⟨_, ⟨ps, source', message', qs, ht, rfl⟩, rfl⟩)
    · exact ⟨a.map .copied, source, message, r.pieces t, h, source_copied a⟩
    · exact ⟨x.map .copied ++ .call source message :: ps, source', message', qs, by simp [h, ht],
        by simp [source_copied, Piece.source]⟩

end Rule

end LogMigration
