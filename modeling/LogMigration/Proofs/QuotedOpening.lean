import LogMigration.Proofs.ModuleReference
import LogMigration.Proofs.StatementBalance

/-!
# Statements in front of a quote

A rule can only convert a statement that opens directly in front of a quote.  Their number is a
measure of what is left to do: a replacement takes exactly one of them away, nothing brings one
back, and neither does the import.

* `Console.openings` — the statements in front of a quote.
* `openings_append_quote`, `openings_append_newline` — the number in parts of a text.
* `Conversion.openings_text` — the balance of a conversion, which is always even.
* `LoggerTarget.openings_ensureImport` — an import leaves the number as it is.
-/

set_option autoImplicit false

namespace LogMigration

namespace Console

/-- Whether a statement with a quote behind its bracket begins the text. -/
def startsQuoted (s : Text) : Bool :=
  [Method.log, Method.error, Method.warn].any fun m =>
    Quote.all.any fun q => Text.startsWith (m.opening ++ [q.char]) s

/-- The number of statements that open directly in front of a quote. -/
def openings : Text → Nat
  | [] => 0
  | c :: cs => (if startsQuoted (c :: cs) then 1 else 0) + openings cs

theorem startsQuoted_iff {s : Text} :
    startsQuoted s = true ↔ ∃ (m : Method) (q : Quote), m.opening ++ [q.char] <+: s := by
  simp only [startsQuoted, List.any_eq_true, Text.startsWith, Option.isSome_iff_exists,
    Text.dropPrefix?_eq_some_iff]
  constructor
  · rintro ⟨m, -, q, -, rest, rfl⟩
    exact ⟨m, q, rest, rfl⟩
  · rintro ⟨m, q, rest, rfl⟩
    exact ⟨m, by cases m <;> simp, q, by cases q <;> decide, rest, rfl⟩

theorem openings_le_occurrences (s : Text) : openings s ≤ occurrences s := by
  induction s with
  | nil => exact Nat.le_refl 0
  | cons c cs ih =>
    have here : startsQuoted (c :: cs) = true → startsStatement (c :: cs) = true := by
      intro h
      obtain ⟨m, q, hp⟩ := startsQuoted_iff.1 h
      have head : m.head <+: m.opening ++ [q.char] :=
        (List.prefix_append m.head ['(']).trans (List.prefix_append m.opening [q.char])
      exact startsStatement_iff.2 ⟨m, head.trans hp⟩
    simp only [openings, occurrences]
    split
    · rw [if_pos (here ‹_›)]
      omega
    · omega

/-! ## Parts of a text -/

theorem openings_of_quoteFree {x : Text} (hx : Text.QuoteFree x) : openings x = 0 := by
  induction x with
  | nil => rfl
  | cons c x ih =>
    have here : startsQuoted (c :: x) = false := by
      rw [← Bool.not_eq_true, startsQuoted_iff]
      rintro ⟨m, q, hp⟩
      exact hx q (hp.subset (by simp))
    simp [openings, here, ih (hx.of_suffix (List.suffix_cons c x))]

/-- In front of the first quote only the statement that opens there begins. -/
theorem startsQuoted_append_quote_iff {x : Text} (hx : Text.QuoteFree x) (q : Quote) (y : Text) :
    startsQuoted (x ++ q.char :: y) = true ↔ ∃ m : Method, m.opening = x := by
  rw [startsQuoted_iff]
  constructor
  · rintro ⟨m, q', t, ht⟩
    rw [List.append_assoc, List.singleton_append] at ht
    exact ⟨m, (Text.append_cons_inj_first (m.quoteFree_opening q) (hx q') ht).1⟩
  · rintro ⟨m, rfl⟩
    exact ⟨m, q, y, by simp⟩

theorem openings_append_quote_of_not {x : Text} (hx : Text.QuoteFree x)
    (h : ∀ m : Method, ¬ m.opening <:+ x) (q : Quote) (y : Text) :
    openings (x ++ q.char :: y) = openings y := by
  have here : startsQuoted (x ++ q.char :: y) = false := by
    rw [← Bool.not_eq_true, startsQuoted_append_quote_iff hx]
    rintro ⟨m, rfl⟩
    exact h m List.suffix_rfl
  cases x with
  | nil =>
    rw [List.nil_append] at here ⊢
    simp [openings, here]
  | cons c x =>
    have shorter : ∀ m : Method, ¬ m.opening <:+ x := fun m hm =>
      h m (hm.trans (List.suffix_cons c x))
    have later := openings_append_quote_of_not (hx.of_suffix (List.suffix_cons c x)) shorter q y
    rw [List.cons_append] at here ⊢
    rw [openings, here, later]
    simp

/-- An opening is no part of the end of another one. -/
theorem Method.not_opening_suffix_tail {m m' : Method} {c : Char} {x : Text}
    (h : m.opening = c :: x) : ¬ m'.opening <:+ x := by
  intro hs
  have whole : m'.opening <:+ [] ++ m.opening := by
    rw [List.nil_append, h]
    exact hs.trans (List.suffix_cons c x)
  obtain rfl := eq_of_suffix_opening whole
  have length := hs.length_le
  rw [h, List.length_cons] at length
  omega

theorem openings_append_quote_of_opening {x : Text} (hx : Text.QuoteFree x) {m : Method}
    (h : m.opening <:+ x) (q : Quote) (y : Text) :
    openings (x ++ q.char :: y) = openings y + 1 := by
  induction x with
  | nil => cases m <;> exact absurd (List.suffix_nil.1 h) (by decide)
  | cons c x ih =>
    have free := hx.of_suffix (List.suffix_cons c x)
    have here := startsQuoted_append_quote_iff hx q y
    rw [List.cons_append] at here ⊢
    rw [openings]
    rcases List.suffix_cons_iff.1 h with heq | h
    · rw [if_pos (here.2 ⟨m, heq⟩), openings_append_quote_of_not free
        (fun _ => Method.not_opening_suffix_tail heq), Nat.add_comm]
    · have later : ¬ ∃ m' : Method, m'.opening = c :: x := by
        rintro ⟨m', hm'⟩
        exact Method.not_opening_suffix_tail hm' h
      rw [if_neg (mt here.1 later), ih free h, Nat.zero_add]

theorem openings_append_newline (x y : Text) :
    openings (x ++ '\n' :: y) = openings x + openings y := by
  have border : ∀ (m : Method) (q : Quote), '\n' ∉ m.opening ++ [q.char] := by
    intro m q
    cases m <;> cases q <;> decide
  induction x with
  | nil =>
    have here : startsQuoted ('\n' :: y) = false := by
      rw [← Bool.not_eq_true, startsQuoted_iff]
      rintro ⟨m, q, hp⟩
      obtain ⟨d, t, ht⟩ := List.exists_cons_of_ne_nil (show m.opening ++ [q.char] ≠ [] by simp)
      rw [ht] at hp
      obtain ⟨rfl, -⟩ := List.cons_prefix_cons.1 hp
      exact border m q (by simp [ht])
    simp [openings, here]
  | cons c x ih =>
    have here : startsQuoted (c :: x ++ '\n' :: y) = startsQuoted (c :: x) := by
      rw [Bool.eq_iff_iff, startsQuoted_iff, startsQuoted_iff]
      constructor
      · rintro ⟨m, q, hp⟩
        rcases Text.prefix_append_cases hp with hp | ⟨v, hv, heq, hp⟩
        · exact ⟨m, q, hp⟩
        · obtain ⟨d, v, rfl⟩ := List.exists_cons_of_ne_nil hv
          obtain ⟨rfl, -⟩ := List.cons_prefix_cons.1 hp
          exact absurd (by simp [heq]) (border m q)
      · rintro ⟨m, q, hp⟩
        exact ⟨m, q, hp.trans (List.prefix_append _ _)⟩
    rw [List.cons_append] at here ⊢
    rw [openings, openings, here, ih]
    omega

end Console

/-! ## A conversion -/

namespace Mark

open Console

variable {binding : Text}

/-- The statements in front of a quote are those of the joints that have not been converted. -/
theorem openings_textOf (hb : Text.IsWord binding) (h₁ : ¬ binding <:+ "console".toList)
    (h₂ : ¬ "console".toList <:+ binding) (done : List Rule) {lead : Text} {ks : List Mark}
    (hs : Division.Sound lead (ks.map toJoint)) :
    openings (lead ++ textOf binding done ks)
      = ks.countP fun k => k.call.isSome && !k.isDone binding done k.opened := by
  induction ks generalizing lead with
  | nil => simpa using openings_of_quoteFree hs.quoteFree
  | cons k ks ih =>
    have free : Text.QuoteFree (lead ++ k.callText binding done) :=
      Text.quoteFree_append.2 ⟨hs.quoteFree, quoteFree_callText hb k⟩
    have behind : Division.Sound (k.argumentText binding done ++ k.body) (ks.map toJoint) :=
      sound_after hs.2.2.1 hs.2.2.2
    have later := ih behind
    rw [textOf_cons, ← List.append_assoc lead, List.countP_cons, ← later]
    cases hc : k.call with
    | none =>
      have plain : lead ++ k.callText binding done = lead := by simp [callText, hc]
      rw [plain] at free ⊢
      rw [openings_append_quote_of_not free (hs.2.1 hc)]
      simp
    | some m =>
      cases hd : k.isDone binding done k.opened with
      | false =>
        have opening : m.opening <:+ lead ++ k.callText binding done := by
          simp [callText, hc, hd]
        rw [openings_append_quote_of_opening free opening]
        simp
      | true =>
        have closed : ∀ m' : Method, ¬ m'.opening <:+ lead ++ k.callText binding done := by
          intro m' hm'
          simp only [callText, hc, hd, Option.elim_some, if_true] at hm'
          exact Text.not_suffix_append h₁ h₂ lead (Method.of_suffix_loggerOpening hm').2.2
        rw [openings_append_quote_of_not free closed]
        simp

end Mark

namespace Conversion

open Console

/-- Every replacement takes one statement in front of a quote away, and none appears. -/
theorem openings_text {binding : Text} (hb : Text.IsWord binding)
    (h₁ : ¬ binding <:+ "console".toList) (h₂ : ¬ "console".toList <:+ binding) (s : Text) :
    openings (ofBinding binding s).text + (ofBinding binding s).replacements = openings s := by
  have before := Mark.openings_textOf hb h₁ h₂ [] (sound_marks s)
  have after := Mark.openings_textOf hb h₁ h₂ (Rule.all binding) (sound_marks s)
  have called := (linked_marks s).call_of_opened
  rw [text_marks] at before
  simp only [Mark.isDone_nil, isDone_all, Bool.not_false, Bool.and_true] at before after
  rw [replacements_eq_countP hb, ofBinding_eq hb, after, before]
  generalize marks s = ks at called
  induction ks with
  | nil => rfl
  | cons k ks ih =>
    obtain ⟨hk, hks⟩ := List.forall_mem_cons.1 called
    have later := ih hks
    simp only [List.countP_cons]
    cases ho : k.opened with
    | none =>
      simp only [Option.isSome_none, Bool.not_false, Bool.and_true, Bool.false_eq_true, if_false]
      omega
    | some shape =>
      have hc := hk (by simp [ho])
      simp only [hc, Option.isSome_some, Bool.not_true, Bool.and_false, Bool.false_eq_true,
        if_false, if_true]
      omega

end Conversion

/-! ## The import -/

namespace LoggerTarget

open Console

section Import

variable (cwd : Path) (target : LoggerTarget) (file : Path) (s : Text)

theorem openings_importLine (hb : Text.IsWord target.binding)
    (hm : Reference.IsQuotable target.module) :
    openings (target.importLine (target.specifier cwd file)) = 0 := by
  have quotable := (names_specifier cwd target file).isQuotable hm
  generalize target.specifier cwd file = specifier at quotable
  -- Neither the text in front of the specifier nor the specifier opens a statement.
  have front : Text.QuoteFree
      ("const ".toList ++ target.binding ++ " = ".toList ++ "require(".toList) := by
    have plain : ∀ t ∈ ["const ".toList, " = ".toList, "require(".toList], Text.QuoteFree t := by
      intro t ht q
      revert t
      cases q <;> decide
    exact Text.quoteFree_append.2 ⟨Text.quoteFree_append.2 ⟨Text.quoteFree_append.2
      ⟨plain _ (by simp), hb.quoteFree⟩, plain _ (by simp)⟩, plain _ (by simp)⟩
  have requires : ∀ m : Method, ¬ m.opening
      <:+ "const ".toList ++ target.binding ++ " = ".toList ++ "require(".toList := by
    intro m
    have := m.not_opening_suffix_require Text.isBlank_nil
      ("const ".toList ++ target.binding ++ " = ".toList)
    rwa [List.append_nil] at this
  have unopened : ∀ m : Method, ¬ m.opening <:+ specifier := by
    intro m hs
    have bracket : '(' ∈ specifier := hs.subset (by simp [Method.opening])
    exact quotable.bracket bracket
  rw [importLine_eq, List.append_assoc, Reference.source_append, ← List.append_assoc,
    List.nil_append, openings_append_quote_of_not front requires,
    openings_append_quote_of_not quotable.quoteFree unopened]
  exact openings_of_quoteFree fun q => by cases q <;> decide

theorem openings_ensureImport (hb : Text.IsWord target.binding)
    (hm : Reference.IsQuotable target.module) :
    openings (target.ensureImport cwd file s).1 = openings s := by
  by_cases h : ∃ specifier, (target.ensureImport cwd file s).2 = .inserted specifier
  · obtain ⟨specifier, h⟩ := h
    obtain ⟨pre, l, post, hlines, htext⟩ := exists_of_inserted cwd target file h
    have original := Text.figure_ofLines openings_append_newline (Text.lines_ne_nil s)
    rw [Text.ofLines_lines, hlines] at original
    rw [htext, original, Text.figure_ofLines openings_append_newline (by simp)]
    simp only [tally_append, tally_cons, openings_importLine cwd target file hb hm]
    omega
  · rw [fst_ensureImport_of_not_inserted cwd target file s fun specifier hs => h ⟨specifier, hs⟩]

end Import

end LoggerTarget

end LogMigration
