import LogMigration.Proofs.Occurrence
import LogMigration.Proofs.SecondPass

/-!
# References to a module

A reference calls `require` on a quoted name of the module.  No rule of a conversion touches such a
call: its quotes do not open a statement and no exception argument follows them.

* `Reference.inText_iff` — a text refers to a module exactly when a reference stands in it.
* `LoggerTarget.inText_of_inserted` — an import that is inserted is a reference.
* `Conversion.source_infix_text`, `Conversion.inText_text` — a conversion keeps references.
-/

set_option autoImplicit false

namespace LogMigration

/-! ## White space and lines -/

namespace Text

/-- A text of white space. -/
def IsBlank (w : Text) : Prop := ∀ c ∈ w, isWhite c = true

theorem isBlank_nil : IsBlank [] := fun _ hc => absurd hc List.not_mem_nil

theorem IsBlank.notMem {w : Text} (h : IsBlank w) {c : Char} (hc : isWhite c = false) : c ∉ w :=
  fun hm => by simp [h c hm] at hc

theorem IsBlank.quoteFree {w : Text} (h : IsBlank w) : QuoteFree w :=
  fun q => h.notMem (by cases q <;> decide)

theorem trimStart_append {w : Text} (hw : IsBlank w) {c : Char} (hc : isWhite c = false)
    (t : Text) : trimStart (w ++ c :: t) = c :: t := by
  rw [trimStart, List.dropWhile_append_of_pos hw, List.dropWhile_cons_of_neg (by simp [hc])]

theorem exists_blank_append_trimStart (s : Text) : ∃ w, IsBlank w ∧ s = w ++ trimStart s :=
  ⟨s.takeWhile isWhite, fun _ hc => List.mem_takeWhile_imp hc, List.takeWhile_append_dropWhile.symm⟩

theorem infix_ofLines {l : Text} {ls : List Text} (h : l ∈ ls) : l <:+: ofLines ls := by
  obtain ⟨front, back, rfl⟩ := List.append_of_mem h
  rw [ofLines, joinWith_append_cons]
  exact List.infix_append _ _ _

end Text

/-! ## What a reference is -/

namespace Reference

/-- A name of the module: some `./` and `../`, the module itself and perhaps `.js`. -/
def Names (module name : Text) : Prop :=
  ∃ (segments : List Text) (ending : Text), (∀ x ∈ segments, x = "./".toList ∨ x = "../".toList)
    ∧ (ending = [] ∨ ending = ".js".toList) ∧ name = segments.flatten ++ module ++ ending

/-- A text that no rule touches between the quotes of a call: it has no quote, no opening bracket
and no comma.  Letters, digits, `_`, `-`, `.` and `/` make up such texts. -/
structure IsQuotable (s : Text) : Prop where
  quoteFree : Text.QuoteFree s
  bracket : '(' ∉ s
  comma : ',' ∉ s

theorem IsQuotable.append {s t : Text} (hs : IsQuotable s) (ht : IsQuotable t) :
    IsQuotable (s ++ t) where
  quoteFree := Text.quoteFree_append.2 ⟨hs.quoteFree, ht.quoteFree⟩
  bracket := by simp [hs.bracket, ht.bracket]
  comma := by simp [hs.comma, ht.comma]

theorem Names.isQuotable {module name : Text} (h : Names module name) (hm : IsQuotable module) :
    IsQuotable name := by
  obtain ⟨segments, ending, hsegments, hending, rfl⟩ := h
  have literal : ∀ t ∈ ["./".toList, "../".toList, ".js".toList, []], IsQuotable t := by
    intro t ht
    simp only [List.mem_cons, List.not_mem_nil, or_false] at ht
    rcases ht with rfl | rfl | rfl | rfl <;>
      exact ⟨fun q => by cases q <;> decide, by decide, by decide⟩
  have front : IsQuotable segments.flatten := by
    induction segments with
    | nil => exact literal [] (by simp)
    | cons x segments ih =>
      obtain ⟨hx, hsegments⟩ := List.forall_mem_cons.1 hsegments
      rw [List.flatten_cons]
      refine (literal x ?_).append (ih hsegments)
      rcases hx with rfl | rfl <;> simp
  refine (front.append hm).append (literal ending ?_)
  rcases hending with rfl | rfl <;> simp

/-- A call of `require` on a quoted name, with the white space inside its brackets. -/
def source (white : Text) (q : Quote) (name white' : Text) : Text :=
  "require(".toList ++ white ++ q.char :: (name ++ q.char :: (white' ++ [')']))

theorem source_append (w : Text) (q : Quote) (name w' rest : Text) :
    source w q name w' ++ rest
      = "require(".toList ++ (w ++ q.char :: (name ++ q.char :: (w' ++ ')' :: rest))) := by
  unfold source
  rw [List.append_assoc, List.append_assoc, List.cons_append, List.append_assoc, List.cons_append,
    List.append_assoc]
  rfl

theorem source_eq (w : Text) (q : Quote) (name w' : Text) :
    source w q name w'
      = "require(".toList ++ w ++ [q.char] ++ name ++ [q.char] ++ w' ++ ")".toList := by
  have fields : ∀ call close : Text, call ++ w ++ q.char :: (name ++ q.char :: (w' ++ close))
      = call ++ w ++ [q.char] ++ name ++ [q.char] ++ w' ++ close := by
    intro call close
    simp
  exact fields "require(".toList [')']

section Recognise

variable {module : Text} {q : Quote} {s : Text}

theorem closes_iff : closes q.char s = true ↔ ∃ ending w rest,
    (ending = [] ∨ ending = ".js".toList) ∧ Text.IsBlank w
      ∧ s = ending ++ q.char :: (w ++ ')' :: rest) := by
  unfold closes
  extract_lets bracket
  have bracket_iff : ∀ t, bracket t = true ↔ ∃ w rest, Text.IsBlank w
      ∧ t = q.char :: (w ++ ')' :: rest) := by
    intro t
    simp only [bracket]
    constructor
    · intro h
      split at h
      · rename_i r hr
        obtain ⟨rest, hrest⟩ := Option.isSome_iff_exists.1 h
        obtain ⟨w, hw, hsplit⟩ := Text.exists_blank_append_trimStart r
        rw [Text.eq_append_of_dropPrefix? hrest] at hsplit
        exact ⟨w, rest, hw, by rw [Text.eq_append_of_dropPrefix? hr, hsplit]; rfl⟩
      · simp at h
    · rintro ⟨w, rest, hw, rfl⟩
      have found : Text.dropPrefix? [q.char] (q.char :: (w ++ ')' :: rest))
          = some (w ++ ')' :: rest) := Text.dropPrefix?_append [q.char] _
      simp only [found, Text.trimStart_append hw (by decide : Text.isWhite ')' = false)]
      rfl
  rw [Bool.or_eq_true, bracket_iff]
  constructor
  · rintro (⟨w, rest, hw, rfl⟩ | h)
    · exact ⟨[], w, rest, .inl rfl, hw, rfl⟩
    · split at h
      · rename_i r hr
        obtain ⟨w, rest, hw, rfl⟩ := (bracket_iff r).1 h
        exact ⟨".js".toList, w, rest, .inr rfl, hw, Text.eq_append_of_dropPrefix? hr⟩
      · simp at h
  · rintro ⟨ending, w, rest, rfl | rfl, hw, rfl⟩
    · exact .inl ⟨w, rest, hw, rfl⟩
    · refine .inr ?_
      rw [Text.dropPrefix?_append]
      exact (bracket_iff _).2 ⟨w, rest, hw, rfl⟩

theorem named_iff : named module q.char s = true ↔ ∃ ending w rest,
    (ending = [] ∨ ending = ".js".toList) ∧ Text.IsBlank w
      ∧ s = module ++ (ending ++ q.char :: (w ++ ')' :: rest)) := by
  unfold named
  constructor
  · intro h
    split at h
    · rename_i r hr
      obtain ⟨ending, w, rest, hending, hw, rfl⟩ := closes_iff.1 h
      exact ⟨ending, w, rest, hending, hw, Text.eq_append_of_dropPrefix? hr⟩
    · simp at h
  · rintro ⟨ending, w, rest, hending, hw, rfl⟩
    rw [Text.dropPrefix?_append]
    exact closes_iff.2 ⟨ending, w, rest, hending, hw, rfl⟩

/-- The module's name may stand at the very start, also where it begins with `./` itself. -/
theorem afterQuote_of_named (h : named module q.char s = true) :
    afterQuote module q.char s = true := by
  fun_cases afterQuote module q.char s with
  | case1 s => simp [h]
  | case2 s => simp [h]
  | case3 => exact h

theorem afterQuote_iff : afterQuote module q.char s = true ↔ ∃ name w rest,
    Names module name ∧ Text.IsBlank w ∧ s = name ++ q.char :: (w ++ ')' :: rest) := by
  constructor
  · intro h
    have here : ∀ t : Text, named module q.char t = true → ∃ name w rest,
        Names module name ∧ Text.IsBlank w ∧ t = name ++ q.char :: (w ++ ')' :: rest) := by
      intro t ht
      obtain ⟨ending, w, rest, hending, hw, rfl⟩ := named_iff.1 ht
      exact ⟨module ++ ending, w, rest, ⟨[], ending, by simp, hending, by simp⟩, hw, by simp⟩
    -- A segment in front of a name gives a name again.
    have further : ∀ {segment t : Text}, segment = "./".toList ∨ segment = "../".toList →
        (∃ name w rest, Names module name ∧ Text.IsBlank w
          ∧ t = name ++ q.char :: (w ++ ')' :: rest)) →
        ∃ name w rest, Names module name ∧ Text.IsBlank w
          ∧ segment ++ t = name ++ q.char :: (w ++ ')' :: rest) := by
      rintro segment t hsegment
        ⟨name, w, rest, ⟨segments, ending, hsegments, hending, rfl⟩, hw, rfl⟩
      refine ⟨segment ++ (segments.flatten ++ module ++ ending), w, rest,
        ⟨segment :: segments, ending, List.forall_mem_cons.2 ⟨hsegment, hsegments⟩, hending, ?_⟩,
        hw, ?_⟩
      · simp
      · simp
    fun_induction afterQuote module q.char s with
    | case1 s ih =>
      rcases Bool.or_eq_true _ _ ▸ h with h | h
      · exact here _ h
      · exact further (.inl rfl) (ih h)
    | case2 s ih =>
      rcases Bool.or_eq_true _ _ ▸ h with h | h
      · exact here _ h
      · exact further (.inr rfl) (ih h)
    | case3 s => exact here _ h
  · rintro ⟨name, w, rest, ⟨segments, ending, hsegments, hending, rfl⟩, hw, rfl⟩
    induction segments with
    | nil =>
      refine afterQuote_of_named (named_iff.2 ⟨ending, w, rest, hending, hw, ?_⟩)
      simp
    | cons x segments ih =>
      obtain ⟨hx, hsegments⟩ := List.forall_mem_cons.1 hsegments
      have later := ih hsegments
      rcases hx with rfl | rfl
      · have step : ∀ t : Text, afterQuote module q.char t = true →
            afterQuote module q.char ("./".toList ++ t) = true := by
          intro t ht
          show afterQuote module q.char ('.' :: '/' :: t) = true
          rw [afterQuote, ht, Bool.or_true]
        simpa using step _ later
      · have step : ∀ t : Text, afterQuote module q.char t = true →
            afterQuote module q.char ("../".toList ++ t) = true := by
          intro t ht
          show afterQuote module q.char ('.' :: '.' :: '/' :: t) = true
          rw [afterQuote, ht, Bool.or_true]
        simpa using step _ later

/-- Behind the bracket and white space stands a quoted name. -/
theorem atStart_append {t : Text} :
    atStart module ("require(".toList ++ t) = true
      ↔ ∃ w q u, Text.IsBlank w ∧ t = w ++ Quote.char q :: u
        ∧ afterQuote module (Quote.char q) u = true := by
  unfold atStart
  rw [Text.dropPrefix?_append]
  dsimp only
  constructor
  · intro h
    obtain ⟨w, hw, hsplit⟩ := Text.exists_blank_append_trimStart t
    generalize Text.trimStart t = v at h hsplit
    cases v with
    | nil => simp at h
    | cons c u =>
      by_cases hsingle : c = '\x27'
      · subst hsingle
        exact ⟨w, .single, u, hw, hsplit, h⟩
      · by_cases hdouble : c = '"'
        · subst hdouble
          exact ⟨w, .double, u, hw, hsplit, h⟩
        · simp [hsingle, hdouble] at h
  · rintro ⟨w, q, u, hw, rfl, h⟩
    cases q with
    | single =>
      rw [Text.trimStart_append hw (by decide : Text.isWhite Quote.single.char = false)]
      exact h
    | double =>
      rw [Text.trimStart_append hw (by decide : Text.isWhite Quote.double.char = false)]
      exact h

theorem atStart_iff : atStart module s = true ↔ ∃ w q name w', Text.IsBlank w ∧ Text.IsBlank w'
    ∧ Names module name ∧ source w q name w' <+: s := by
  constructor
  · intro h
    obtain ⟨t, ht⟩ : ∃ t, Text.dropPrefix? "require(".toList s = some t := by
      unfold atStart at h
      split at h
      · simp at h
      · exact ⟨_, ‹_›⟩
    obtain rfl := Text.eq_append_of_dropPrefix? ht
    obtain ⟨w, q, u, hw, rfl, hafter⟩ := atStart_append.1 h
    obtain ⟨name, w', rest, hname, hw', rfl⟩ := afterQuote_iff.1 hafter
    exact ⟨w, q, name, w', hw, hw', hname, rest, source_append w q name w' rest⟩
  · rintro ⟨w, q, name, w', hw, hw', hname, rest, rfl⟩
    rw [source_append, atStart_append]
    exact ⟨w, q, _, hw, rfl, afterQuote_iff.2 ⟨name, w', rest, hname, hw', rfl⟩⟩

theorem inText_iff : inText module s = true ↔ ∃ w q name w', Text.IsBlank w ∧ Text.IsBlank w'
    ∧ Names module name ∧ source w q name w' <:+: s := by
  simp only [inText, Text.anySuffix_iff, atStart_iff]
  constructor
  · rintro ⟨a, b, rfl, w, q, name, w', hw, hw', hname, rest, rfl⟩
    exact ⟨w, q, name, w', hw, hw', hname, a, rest, by simp⟩
  · rintro ⟨w, q, name, w', hw, hw', hname, a, rest, rfl⟩
    exact ⟨a, _, List.append_assoc .., w, q, name, w', hw, hw', hname, rest, rfl⟩

end Recognise

end Reference

/-! ## The inserted import -/

/-- The new line goes behind the last anchor. -/
theorem Anchor.exists_of_insertAfterLast? {new : Text} {ls out : List Text}
    (h : insertAfterLast? new ls = some out) :
    ∃ pre l post, ls = pre ++ l :: post ∧ isAnchor l = true ∧ (∀ x ∈ post, isAnchor x = false)
      ∧ out = pre ++ l :: new :: post := by
  induction ls generalizing out with
  | nil => simp [insertAfterLast?] at h
  | cons l ls ih =>
    rw [insertAfterLast?] at h
    split at h
    · rename_i out' hout
      obtain ⟨pre, l', post, rfl, hl', hpost, rfl⟩ := ih hout
      cases h
      exact ⟨l :: pre, l', post, rfl, hl', hpost, rfl⟩
    · rename_i hnone
      split at h
      · rename_i hl
        cases h
        exact ⟨[], l, ls, rfl, hl, (insertAfterLast?_eq_none_iff new).1 hnone, rfl⟩
      · simp at h

namespace LoggerTarget

section Import

variable (cwd : Path) (target : LoggerTarget) (file : Path)

theorem names_specifier : Reference.Names target.module (target.specifier cwd file) := by
  unfold specifier
  split
  · exact ⟨["./".toList], [], by simp, .inl rfl, by simp⟩
  · refine ⟨List.replicate (target.depth cwd file) "../".toList, [], fun x hx => ?_, .inl rfl,
      by simp⟩
    exact .inr (List.eq_of_mem_replicate hx)

theorem importLine_eq (specifier : Text) :
    target.importLine specifier = "const ".toList ++ target.binding ++ " = ".toList
      ++ Reference.source [] .single specifier [] ++ ";".toList := by
  have opening : " = require('".toList
      = " = ".toList ++ ("require(".toList ++ [Quote.single.char]) := by decide +kernel
  have closing : "');".toList = Quote.single.char :: ')' :: ";".toList := by decide +kernel
  unfold importLine
  simp only [List.append_assoc, Reference.source_append, opening, closing]
  simp only [List.cons_append]
  simp only [List.nil_append]

variable {s : Text}

/-- What an insertion does to the lines of a text. -/
theorem exists_of_inserted {specifier : Text}
    (h : (target.ensureImport cwd file s).2 = .inserted specifier) :
    ∃ pre l post, Text.lines s = pre ++ l :: post
      ∧ (target.ensureImport cwd file s).1
        = Text.ofLines (pre ++ l :: target.importLine (target.specifier cwd file) :: post) := by
  unfold ensureImport at h ⊢
  split at h
  · simp at h
  · rename_i href
    rw [if_neg href]
    dsimp only at h ⊢
    split at h
    · rename_i ls hls
      obtain ⟨pre, l, post, hlines, -, -, rfl⟩ := Anchor.exists_of_insertAfterLast? hls
      exact ⟨pre, l, post, hlines, rfl⟩
    · simp at h

theorem inText_of_inserted {specifier : Text}
    (h : (target.ensureImport cwd file s).2 = .inserted specifier) :
    Reference.inText target.module (target.ensureImport cwd file s).1 = true := by
  obtain ⟨pre, l, post, -, htext⟩ := exists_of_inserted cwd target file h
  rw [htext, Reference.inText_iff]
  have line : target.importLine (target.specifier cwd file)
      ∈ pre ++ l :: target.importLine (target.specifier cwd file) :: post := by simp
  exact ⟨[], .single, target.specifier cwd file, [], Text.isBlank_nil, Text.isBlank_nil,
    names_specifier cwd target file, List.IsInfix.trans
      ⟨_, _, (importLine_eq target _).symm⟩ (Text.infix_ofLines line)⟩

end Import

end LoggerTarget

/-! ## References in a converted text -/

/-- Behind `require(` and white space no statement opens. -/
theorem Console.Method.not_opening_suffix_require (m : Method) {w : Text} (hw : Text.IsBlank w)
    (x : Text) : ¬ m.opening <:+ x ++ "require(".toList ++ w := by
  intro h
  rcases List.eq_nil_or_concat w with rfl | ⟨w, c, rfl⟩
  · rw [List.append_nil] at h
    have longer : "require(".toList <:+ m.opening :=
      List.suffix_of_suffix_length_le (List.suffix_append _ _) h (by cases m <;> decide)
    cases m <;> exact absurd longer (by decide)
  · -- The last character of an opening is a bracket, and that is no white space.
    rw [List.concat_eq_append, ← List.append_assoc] at h
    have last : m.opening = m.head ++ ['('] := rfl
    obtain ⟨y, hy⟩ := h
    rw [last, ← List.append_assoc] at hy
    obtain rfl : '(' = c := (List.append_inj_right' hy rfl |> List.cons.inj).1
    exact absurd (hw '(' (by simp)) (by decide)

namespace Mark

variable {binding : Text}

/-- The text of some marks begins with a quote or a letter. -/
theorem exists_first_textOf (binding : Text) (k : Mark) (ks : List Mark) :
    ∃ c t, textOf binding [] (k :: ks) = c :: t ∧ (c = 'c' ∨ c = k.quote.char) := by
  rw [textOf_cons, callText_nil, Joint.callText]
  cases hc : k.call with
  | none => exact ⟨_, _, rfl, .inr rfl⟩
  | some m =>
    obtain ⟨t, ht, -⟩ := m.head_eq_cons
    have opening : m.opening = 'c' :: (t ++ ['(']) := by rw [Console.Method.opening, ht]; rfl
    rw [Option.elim_some, opening]
    exact ⟨'c', _, rfl, .inl rfl⟩

/-- The quote behind a name is that of the first joint, which is the end of no call, and the white
space and the bracket stand in its body. -/
theorem exists_joint_of_name (hb : Text.IsWord binding) {lead : Text} {ks : List Mark}
    (hs : Division.Sound lead (ks.map toJoint)) {q : Quote} {name w b : Text} (hw : Text.IsBlank w)
    (hname : Reference.IsQuotable name)
    (h : lead ++ textOf binding [] ks = name ++ q.char :: (w ++ ')' :: b)) :
    ∃ n rest, ks = n :: rest ∧ n.quote = q ∧ n.call = none ∧ n.exception = none ∧ lead = name
      ∧ w ++ [')'] <+: n.body := by
  obtain ⟨pre, n, rest, rfl, hn, hfront, hbehind⟩ := exists_joint_of_quote hb hs h
  obtain rfl : pre = [] := by
    cases pre with
    | nil => rfl
    | cons x pre => exact absurd (by simp [hfront]) (hname.quoteFree x.quote)
  have no_call : n.call = none := by
    cases hc : n.call with
    | none => rfl
    | some m =>
      have open_bracket : '(' ∈ n.callText binding [] := by
        simp [Joint.callText, hc, Console.Method.opening]
      exact absurd (by rw [hfront]; exact List.mem_append_right _ open_bracket) hname.bracket
  have no_exception : n.exception = none := by
    cases he : n.exception with
    | none => rfl
    | some u =>
      rw [argumentText_nil, Joint.argumentText, he] at hbehind
      cases w with
      | nil => exact absurd (List.cons.inj hbehind).1 (by decide)
      | cons c w =>
        obtain rfl : c = ',' := (List.cons.inj hbehind).1
        exact absurd (hw ',' (by simp)) (by decide)
  refine ⟨n, rest, rfl, hn, no_call, no_exception, ?_, ?_⟩
  · simpa [Joint.callText, no_call] using hfront.symm
  · have found : w ++ [')'] <+: n.body ++ textOf binding [] rest := by
      rw [argumentText_nil, Joint.argumentText, no_exception, Option.elim_none,
        List.nil_append] at hbehind
      exact ⟨b, by rw [← hbehind, List.append_assoc, List.singleton_append]⟩
    rcases Text.prefix_append_cases found with found | ⟨v, hv, hsplit, hp⟩
    · exact found
    · -- Otherwise a quote or a letter would stand among the white space and the bracket.
      cases rest with
      | nil => exact absurd (List.prefix_nil.1 hp) hv
      | cons x rest =>
        obtain ⟨c, t, ht, hc⟩ := exists_first_textOf binding x rest
        obtain ⟨d, v, rfl⟩ := List.exists_cons_of_ne_nil hv
        rw [ht] at hp
        obtain ⟨rfl, -⟩ := List.cons_prefix_cons.1 hp
        have among : d ∈ w ++ [')'] := by simp [hsplit]
        rcases List.mem_append.1 among with hd | hd
        · have white := hw d hd
          rcases hc with rfl | rfl
          · exact absurd white (by decide)
          · cases hq : x.quote <;> rw [hq] at white <;> exact absurd white (by decide)
        · obtain rfl := List.mem_singleton.1 hd
          rcases hc with hc | hc
          · exact absurd hc (by decide)
          · cases hq : x.quote <;> rw [hq] at hc <;> exact absurd hc (by decide)

end Mark

namespace Conversion

variable {binding s : Text}

/-- A call of `require` on a quoted name is kept. -/
theorem source_infix_text (hb : Text.IsWord binding) {w w' name : Text} {q : Quote}
    (hw : Text.IsBlank w) (hw' : Text.IsBlank w') (hname : Reference.IsQuotable name)
    (h : Reference.source w q name w' <:+: s) :
    Reference.source w q name w' <:+: (ofBinding binding s).text := by
  obtain ⟨a, b, hab⟩ := h
  have sound := sound_marks s
  -- The opening quote is that of a joint without a statement.
  have first : lead s ++ Mark.textOf binding [] (marks s)
      = (a ++ "require(".toList ++ w) ++ q.char :: (name ++ q.char :: (w' ++ ')' :: b)) := by
    simp only [text_marks, ← hab, List.append_assoc, Reference.source_append]
  obtain ⟨pre, k, post, hks, hk, hfront, hbehind⟩ := Mark.exists_joint_of_quote hb sound first
  have no_call : k.call = none := by
    cases hc : k.call with
    | none => rfl
    | some m =>
      have opening : m.opening <:+ a ++ "require(".toList ++ w := by
        rw [hfront, Mark.callText_nil, Joint.callText, hc]
        exact List.suffix_append _ _
      exact absurd opening (m.not_opening_suffix_require hw a)
  have no_exception : k.exception = none := by
    cases he : k.exception with
    | none => rfl
    | some u =>
      rw [Mark.argumentText_nil, Joint.argumentText, he] at hbehind
      cases name with
      | nil =>
        have := (List.cons.inj hbehind).1
        cases q <;> exact absurd this (by decide)
      | cons c name =>
        obtain rfl : c = ',' := (List.cons.inj hbehind).1
        exact absurd (by simp) hname.comma
  have front : "require(".toList ++ w <:+ lead s ++ Mark.textOf binding (Rule.all binding) pre := by
    have here : "require(".toList ++ w <:+ lead s ++ Mark.textOf binding [] pre := by
      rw [Mark.callText_nil, Joint.callText, no_call, Option.elim_none, List.append_nil] at hfront
      exact ⟨a, by rw [← hfront, List.append_assoc]⟩
    have free : Text.QuoteFree ("require(".toList ++ w) :=
      Text.quoteFree_append.2 ⟨fun q => by cases q <;> decide, hw.quoteFree⟩
    have unclosed : ')' ∉ "require(".toList ++ w := fun hm =>
      (List.mem_append.1 hm).elim (by decide) (hw.notMem (by decide))
    have before : ∀ x ∈ pre, x.toJoint.Sound := fun x hx =>
      Mark.sound_of_division sound x (by rw [hks]; exact List.mem_append_left _ hx)
    exact Mark.suffix_front_of_suffix_front before free unclosed here
  -- The closing quote is that of the next joint.
  have inside : Division.Sound k.body (post.map Mark.toJoint) := by
    rw [hks, List.map_append, List.map_cons] at sound
    exact sound.behind _
  rw [Mark.argumentText_nil, Joint.argumentText, no_exception, Option.elim_none,
    List.nil_append] at hbehind
  obtain ⟨n, rest, rfl, hn, hcall, hexception, hbody, t, ht⟩ :=
    Mark.exists_joint_of_name hb inside hw' hname hbehind.symm
  obtain ⟨u, hu⟩ := front
  refine ⟨u, t ++ Mark.textOf binding (Rule.all binding) rest, ?_⟩
  rw [ofBinding_eq hb, hks, Mark.textOf_append, Mark.textOf_cons, Mark.textOf_cons,
    Mark.callText, Mark.callText, Mark.argumentText, Mark.argumentText, no_call, hcall,
    no_exception, hexception, hk, hn, hbody, ← ht]
  simp only [Option.elim_none, List.nil_append]
  rw [← List.append_assoc (lead s), ← hu, List.append_assoc u, Reference.source_append]
  simp only [List.append_assoc, List.cons_append, List.nil_append]

theorem inText_text (hb : Text.IsWord binding) {module : Text} (hm : Reference.IsQuotable module)
    (h : Reference.inText module s = true) :
    Reference.inText module (ofBinding binding s).text = true := by
  obtain ⟨w, q, name, w', hw, hw', hname, hsource⟩ := Reference.inText_iff.1 h
  exact Reference.inText_iff.2 ⟨w, q, name, w', hw, hw', hname,
    source_infix_text hb hw hw' (hname.isQuotable hm) hsource⟩

end Conversion

end LogMigration
