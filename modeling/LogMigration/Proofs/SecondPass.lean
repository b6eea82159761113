import LogMigration.Config.Document
import LogMigration.Proofs.SinglePass
import LogMigration.SourceEdit

/-!
# A second pass

What a second conversion finds in a text that has been converted.

* `Rule.Overlaps` — a call begins inside another one of the same rule; one pass replaces only one of
  the two.
* `Rule.ReadsBack` — a logger call that differs from the console call in the name alone stands where
  the name completes `console`.
* `Conversion.occursIn_text_iff` — one pass leaves a call of a rule exactly when there is one or the
  other; `settled_text_iff` is the same for all rules.
* `SourceEdit.second_idle_iff` — exactly when a second conversion of a file does nothing.
-/

set_option autoImplicit false

namespace LogMigration

namespace Rule

/-- Whether a call of the rule begins inside another one. -/
def Overlaps (r : Rule) (s : Text) : Prop :=
  ∃ a x y source message rest, s = a ++ x ++ y ∧ r.match? (x ++ y) = some (source, message, rest)
    ∧ x ≠ [] ∧ x.length < source.length ∧ r.begins y = true

/-- Whether the logger call in the place of some call of the rule is a call of it again: it has the
same method and the same arguments, and the logger's name completes `console`. -/
def ReadsBack (r : Rule) (s : Text) : Prop :=
  r.shape.details = [] ∧ r.shape.loggerMethod = r.shape.consoleMethod.name
    ∧ ∃ a c, s = a ++ c ∧ r.begins c = true ∧ "console".toList <:+ a ++ r.binding

end Rule

namespace Mark

variable {binding : Text}

/-! ## Calls of the original text -/

section Original

variable {r : Rule} {pending : Quote → Option CallShape} {lead : Text} {ks : List Mark}

theorem begins_original_iff (hb : Text.IsWord binding) (hl : Linked pending ks)
    (hs : Division.Sound lead (ks.map toJoint)) {a c : Text} :
    lead ++ textOf binding [] ks = a ++ c ∧ r.begins c = true
      ↔ ∃ pre k post, ks = pre ++ k :: post ∧ k.quote = r.quote
        ∧ k.shape? (post.map toJoint) = some r.shape
        ∧ a = lead ++ textOf binding [] pre ∧ c = textOf binding [] (k :: post) := by
  constructor
  · intro h
    obtain ⟨pre, k, post, rfl, hq, hfront, hc, hbody⟩ := (begins_textOf_iff hb hs).1 h
    obtain ⟨pending', hl', -⟩ := hl.of_append
    have hshape := (found_cases hb hl' (sound_of_append hs) (not_suffix_front hs) hq hbody
      ⟨a, hfront⟩).1
    have call : k.callText binding [] = r.shape.consoleMethod.opening := by
      simp [Joint.callText, (Joint.shape?_eq_some_iff.1 hshape).1]
    rw [call] at hfront
    exact ⟨pre, k, post, rfl, hq, hshape, List.append_cancel_right hfront,
      by rw [hc, textOf_cons, call, hq]⟩
  · rintro ⟨pre, k, post, rfl, hq, hshape, rfl, rfl⟩
    obtain ⟨pending', hl', -⟩ := hl.of_append
    exact ⟨by simp, begins_of_kept hb hl' (sound_of_append hs) hq hshape
      (isDone_nil binding k k.opened)⟩

theorem match?_original (hb : Text.IsWord binding) {k n : Mark} {mid rest : List Mark}
    (hs : ∀ x ∈ k :: (mid ++ n :: rest), x.toJoint.Sound) (hq : k.quote = r.quote)
    (hmid : ∀ x ∈ mid, x.quote ≠ r.quote) (hn : n.quote = r.quote)
    (hshape : k.shape? ((mid ++ n :: rest).map toJoint) = some r.shape) :
    n.ends r.shape = true ∧ ∃ message tail,
      r.match? (textOf binding [] (k :: (mid ++ n :: rest)))
        = some (textOf binding [] (k :: mid) ++ n.toJoint.callText ++ r.quote.char
          :: (n.toJoint.argumentText ++ ");".toList), message, tail) := by
  obtain ⟨hcall, hsilent, n', hn', hends⟩ := Joint.shape?_eq_some_iff.1 hshape
  rw [find?_next (by rwa [hq]) (by rw [hn, hq])] at hn'
  cases hn'
  have body := body?_of_next hb [] hs hq hmid hn
  rw [if_pos ⟨hsilent, hends, fun _ => isDone_nil binding n n.closed⟩] at body
  have front : k.callText binding [] = r.shape.consoleMethod.opening := by
    simp [Joint.callText, hcall]
  have found := r.match?_head_append
    (k.argumentText binding [] ++ k.body ++ textOf binding [] (mid ++ n :: rest))
  rw [body, Option.map_some, Rule.head_eq, List.append_assoc, List.singleton_append] at found
  refine ⟨hends, messageText binding [] k mid n, n.body.drop 2 ++ textOf binding [] rest, ?_⟩
  rw [textOf_cons, front, hq, found]
  simp [messageText, front, hq]

theorem length_source_le (hb : Text.IsWord binding) {k n : Mark} {mid mid' rest : List Mark}
    (hs : ∀ x ∈ k :: (mid ++ n :: (mid' ++ rest)), x.toJoint.Sound) (hq : k.quote = r.quote)
    (hmid : ∀ x ∈ mid, x.quote ≠ r.quote) (hn : n.quote = r.quote)
    (hshape : k.shape? ((mid ++ n :: (mid' ++ rest)).map toJoint) = some r.shape)
    {source message tail : Text}
    (h : r.match? (textOf binding [] (k :: (mid ++ n :: (mid' ++ rest))))
      = some (source, message, tail)) :
    source.length ≤ (textOf binding [] (k :: (mid ++ n :: mid'))).length := by
  obtain ⟨hends, message', tail', hfound⟩ := match?_original hb hs hq hmid hn hshape
  rw [hfound] at h
  obtain ⟨rfl, -⟩ := Prod.mk.inj (Option.some.inj h)
  obtain ⟨t, ht⟩ := body_of_ends (hs n (by simp)) hends
  simp only [textOf_cons, textOf_append, callText_nil, argumentText_nil, ht, List.length_append,
    List.length_cons]
  omega

end Original

end Mark

/-! ## Calls that survive a pass -/

namespace Conversion

variable {binding : Text} {r : Rule} {s : Text}

theorem begins_iff (hb : Text.IsWord binding) {a c : Text} :
    s = a ++ c ∧ r.begins c = true
      ↔ ∃ pre k post, marks s = pre ++ k :: post ∧ k.quote = r.quote
        ∧ k.shape? (post.map Mark.toJoint) = some r.shape
        ∧ a = lead s ++ Mark.textOf binding [] pre ∧ c = Mark.textOf binding [] (k :: post) := by
  have original := Mark.begins_original_iff (r := r) (a := a) (c := c) hb (linked_marks s)
    (sound_marks s)
  rwa [text_marks] at original

/-- Calls overlap where two joints with the same quote, and none with it between them, both begin a
call of the rule. -/
theorem overlaps_iff (hb : Text.IsWord binding) :
    r.Overlaps s ↔ ∃ pre j mid k post, marks s = pre ++ j :: (mid ++ k :: post)
      ∧ j.quote = r.quote ∧ (∀ x ∈ mid, x.quote ≠ r.quote) ∧ k.quote = r.quote
      ∧ j.shape? ((mid ++ k :: post).map Mark.toJoint) = some r.shape
      ∧ k.shape? (post.map Mark.toJoint) = some r.shape := by
  constructor
  · rintro ⟨a, x, y, source, message, rest, hs, hmatch, hx, hlt, hy⟩
    have first : s = a ++ (x ++ y) ∧ r.begins (x ++ y) = true :=
      ⟨by rw [hs, List.append_assoc], by simp [Rule.begins, hmatch]⟩
    obtain ⟨pre, j, post, hks, hj, hjshape, rfl, hxy⟩ := (begins_iff hb).1 first
    obtain ⟨pre', k, post', hks', hk, hkshape, hax, -⟩ := (begins_iff hb).1 ⟨hs, hy⟩
    rw [List.append_assoc, List.append_cancel_left_eq] at hax
    -- The second call is further on, so its joint stands behind that of the first.
    rcases List.append_eq_append_iff.1 (hks.symm.trans hks') with ⟨d, rfl, hd⟩ | ⟨d, rfl, -⟩
    · rw [Mark.textOf_append, List.append_cancel_left_eq] at hax
      subst hax
      cases d with
      | nil => exact absurd rfl hx
      | cons j' mid =>
        rw [List.cons_append] at hd
        obtain ⟨rfl, rfl⟩ := List.cons.inj hd
        rcases Mark.next_cases r.quote mid with hmid | ⟨mid, n, mid', rfl, hmid, hn⟩
        · exact ⟨pre, j, mid, k, post', hks, hj, hmid, hk, hjshape, hkshape⟩
        · -- A joint with the quote between them would end the first call before the second.
          rw [List.append_assoc, List.cons_append] at hks hjshape hxy
          rw [hxy] at hmatch
          have covered := Mark.length_source_le hb (sound_of_marks hks) hj hmid hn hjshape hmatch
          omega
    · rw [Mark.textOf_append, List.append_assoc, List.append_right_eq_self] at hax
      exact absurd (List.append_eq_nil_iff.1 hax).2 hx
  · rintro ⟨pre, j, mid, k, post, hks, hj, hmid, hk, hjshape, hkshape⟩
    obtain ⟨-, message, tail, hfound⟩ :=
      Mark.match?_original hb (sound_of_marks hks) hj hmid hk hjshape
    obtain ⟨hs, hbegins⟩ := (begins_iff (s := s) hb).2
      ⟨pre ++ j :: mid, k, post, by rw [hks]; simp, hk, hkshape, rfl, rfl⟩
    rw [← List.cons_append, Mark.textOf_append] at hfound
    rw [Mark.textOf_append, ← List.append_assoc] at hs
    refine ⟨_, _, _, _, message, tail, hs, hfound, by simp, ?_, hbegins⟩
    simp only [List.length_append, List.length_cons]
    omega

/-- Where the logger's name completes `console`, it does so whatever has been converted. -/
theorem completes_front {pre post : List Mark} {k : Mark} (hks : marks s = pre ++ k :: post)
    {done : List Rule} (done' : List Rule)
    (h : "console".toList <:+ lead s ++ Mark.textOf binding done pre ++ binding) :
    "console".toList <:+ lead s ++ Mark.textOf binding done' pre ++ binding := by
  have sound : ∀ x ∈ pre, x.toJoint.Sound := fun x hx =>
    Mark.sound_of_division (sound_marks s) x (by rw [hks]; exact List.mem_append_left _ hx)
  rcases Text.suffix_append_cases h with h | ⟨v, -, hv, hs⟩
  · exact h.trans (List.suffix_append _ _)
  · have word : Text.IsWord v := by
      have console : Text.IsWord "console".toList := by decide
      exact fun c hc => console c (by rw [hv]; exact List.mem_append_left _ hc)
    have front : v <:+ lead s ++ Mark.textOf binding done' pre :=
      Mark.suffix_front_of_suffix_front sound word.quoteFree (word.notMem (by decide)) hs
    obtain ⟨u, hu⟩ := front
    rw [hv, ← hu]
    exact ⟨u, (List.append_assoc ..).symm⟩

theorem occursIn_of_not_opened (hb : Text.IsWord binding) {pre post : List Mark} {k : Mark}
    (hks : marks s = pre ++ k :: post) (hq : k.quote = r.quote)
    (hshape : k.shape? (post.map Mark.toJoint) = some r.shape) (ho : k.opened = none) :
    r.occursIn (ofBinding binding s).text = true := by
  obtain ⟨pending, hl⟩ := exists_linked hks
  have untouched : k.isDone binding (Rule.all binding) k.opened = false := by
    rw [isDone_all, ho, Option.isSome_none]
  have here := Mark.begins_of_kept hb hl (sound_of_marks hks) hq hshape untouched
  rw [ofBinding_eq hb, hks, Mark.textOf_append, ← List.append_assoc]
  exact Rule.occursIn_iff.2 ⟨_, _, rfl, here⟩

theorem occursIn_of_overlaps (hb : Text.IsWord binding) (h : r.Overlaps s) :
    r.occursIn (ofBinding binding s).text = true := by
  obtain ⟨pre, j, mid, k, post, hks, hj, hmid, hk, hjshape, hkshape⟩ := (overlaps_iff hb).1 h
  obtain ⟨pending, hl⟩ := exists_linked hks
  obtain ⟨hclosed, pending', hl'⟩ := hl.next (by rwa [hj]) (by rw [hk, hj])
  have first := hl.opened_of_shape? hjshape
  split at first
  · exact occursIn_of_not_opened hb hks hj hjshape first
  · -- The first call is converted, so the second shares its closing quote.
    have second := hl'.opened_of_shape? hkshape
    rw [if_pos (hclosed.trans first)] at second
    have later : marks s = (pre ++ j :: mid) ++ k :: post := by simp [hks]
    exact occursIn_of_not_opened hb later hk hkshape second

/-- The method and the arguments of a logger call are those of the console call except for
`console.log` and for the exception. -/
theorem same_call_iff (shape : CallShape) :
    shape.details = [] ∧ shape.loggerMethod = shape.consoleMethod.name
      ↔ shape ≠ .errorWithException ∧ shape.consoleMethod ≠ .log := by
  cases shape <;> decide

/-- A logger call that reads back is a call again, if the call was converted at all. -/
theorem occursIn_of_readsBack (hb : Text.IsWord binding) (hr : r.binding = binding)
    (h : r.ReadsBack s) : r.occursIn (ofBinding binding s).text = true := by
  obtain ⟨hdetails, hmethod, a, c, hs, hc, hcon⟩ := h
  obtain ⟨pre, k, post, hks, hq, hshape, rfl, -⟩ := (begins_iff hb).1 ⟨hs, hc⟩
  obtain ⟨hexc, hlog⟩ := (same_call_iff r.shape).1 ⟨hdetails, hmethod⟩
  cases ho : k.opened with
  | none => exact occursIn_of_not_opened hb hks hq hshape ho
  | some shape =>
    obtain ⟨pending, hl⟩ := exists_linked hks
    have sound := sound_marks s
    rw [hr] at hcon
    have completed := completes_front hks (Rule.all binding) hcon
    rw [ofBinding_eq hb]
    rw [hks] at sound ⊢
    exact Mark.occursIn_of_converted hb hl sound hq hshape (by simp [isDone_all, ho]) hexc hlog
      completed

/-- A call of a rule is left in the text exactly when two calls of the rule overlap or a logger call
in the place of one reads back. -/
theorem occursIn_text_iff (hb : Text.IsWord binding) (hr : r.binding = binding) :
    r.occursIn (ofBinding binding s).text = true ↔ r.Overlaps s ∨ r.ReadsBack s := by
  constructor
  · intro h
    have linked := linked_marks s
    rw [ofBinding_eq hb] at h
    obtain ⟨pre, k, post, hks, hq, hshape, hkept | ⟨-, hexc, hlog, hcon⟩⟩ :=
      Mark.kept_or_reads_back hb linked (sound_marks s) h
    · left
      obtain ⟨pending, hl⟩ := exists_linked hks
      rw [hks] at linked
      rcases linked.closed_cases (closed_of_kept hl hshape hkept) with
        ⟨hnone, -⟩ | ⟨pre, j, mid, rfl, hj, hmid, ho⟩
      · simp at hnone
      · rw [List.append_assoc, List.cons_append] at hks
        obtain ⟨pending', hl'⟩ := exists_linked hks
        exact (overlaps_iff hb).2 ⟨pre, j, mid, k, post, hks, hj.trans hq, by rwa [← hq], hq,
          hl'.shape?_of_opened ho, hshape⟩
    · right
      obtain ⟨hs, hc⟩ := (begins_iff hb).2 ⟨pre, k, post, hks, hq, hshape, rfl, rfl⟩
      obtain ⟨hdetails, hmethod⟩ := (same_call_iff r.shape).2 ⟨hexc, hlog⟩
      refine ⟨hdetails, hmethod, _, _, hs, hc, ?_⟩
      rw [hr]
      exact completes_front hks [] hcon
  · rintro (h | h)
    · exact occursIn_of_overlaps hb h
    · exact occursIn_of_readsBack hb hr h

/-- One pass leaves no call behind exactly when no two calls of one rule overlap and no logger call
reads back. -/
theorem settled_text_iff (hb : Text.IsWord binding) (s : Text) :
    Settled binding (ofBinding binding s).text
      ↔ ∀ r ∈ Rule.all binding, ¬ r.Overlaps s ∧ ¬ r.ReadsBack s := by
  have each : ∀ r ∈ Rule.all binding, r.occursIn (ofBinding binding s).text = false
      ↔ ¬ r.Overlaps s ∧ ¬ r.ReadsBack s := by
    intro r hr
    rw [← Bool.not_eq_true, occursIn_text_iff hb (Rule.mem_all_iff.1 hr), not_or]
  exact forall₂_congr each

end Conversion

/-! ## The import of a second pass -/

theorem Anchor.insertAfterLast?_eq_none_iff (new : Text) {ls : List Text} :
    insertAfterLast? new ls = none ↔ ∀ l ∈ ls, isAnchor l = false := by
  induction ls with
  | nil => simp [insertAfterLast?]
  | cons l ls ih =>
    rw [List.forall_mem_cons, ← ih, insertAfterLast?]
    cases insertAfterLast? new ls with
    | some out => simp
    | none => simp

namespace LoggerTarget

section Import

variable (cwd : Path) (target : LoggerTarget) (file : Path) (s : Text)

theorem ensureImport_cases :
    (Reference.inText target.module s = true
        ∧ target.ensureImport cwd file s = (s, .alreadyPresent))
      ∨ (Reference.inText target.module s = false ∧ (∀ l ∈ Text.lines s, Anchor.isAnchor l = false)
        ∧ target.ensureImport cwd file s = (s, .noAnchor))
      ∨ (Reference.inText target.module s = false
        ∧ (¬ ∀ l ∈ Text.lines s, Anchor.isAnchor l = false)
        ∧ ∃ t, target.ensureImport cwd file s = (t, .inserted (target.specifier cwd file))) := by
  unfold ensureImport
  cases href : Reference.inText target.module s with
  | true => exact .inl ⟨rfl, if_pos rfl⟩
  | false =>
    right
    simp only [Bool.false_eq_true, if_false, true_and]
    generalize target.importLine (target.specifier cwd file) = new
    rw [← Anchor.insertAfterLast?_eq_none_iff new]
    cases Anchor.insertAfterLast? new (Text.lines s) with
    | none => exact .inl ⟨rfl, rfl⟩
    | some ls => exact .inr ⟨by simp, _, rfl⟩

theorem not_inserted_iff :
    (∀ specifier, (target.ensureImport cwd file s).2 ≠ .inserted specifier)
      ↔ Reference.inText target.module s = true
        ∨ ∀ l ∈ Text.lines s, Anchor.isAnchor l = false := by
  rcases ensureImport_cases cwd target file s with
    ⟨href, heq⟩ | ⟨-, hanchor, heq⟩ | ⟨href, hanchor, t, heq⟩
  · simp [heq, href]
  · simp only [heq, ne_eq, reduceCtorEq, not_false_eq_true, implies_true, true_iff]
    exact .inr hanchor
  · simp only [heq, href, ne_eq, ImportOutcome.inserted.injEq, Bool.false_eq_true, false_or,
      hanchor, iff_false]
    exact fun h => h _ rfl

theorem fst_ensureImport_of_not_inserted
    (h : ∀ specifier, (target.ensureImport cwd file s).2 ≠ .inserted specifier) :
    (target.ensureImport cwd file s).1 = s := by
  rcases ensureImport_cases cwd target file s with
    ⟨-, heq⟩ | ⟨-, -, heq⟩ | ⟨-, -, t, heq⟩
  · rw [heq]
  · rw [heq]
  · rw [heq] at h
    exact absurd rfl (h _)

end Import

end LoggerTarget

namespace SourceEdit

open Conversion

/-- Whether an edit has left a text as it was. -/
structure Idle (e : SourceEdit) (s : Text) : Prop where
  text : e.text = s
  ruleHits : e.ruleHits = 0
  importOutcome : ∀ specifier, e.importOutcome ≠ .inserted specifier

/-- An edit is idle exactly when no rule matches in the text and no import is missing that could be
inserted. -/
theorem idle_of_iff (cwd : Path) (target : LoggerTarget) (file : Path) (s : Text) :
    (SourceEdit.of cwd target file s).Idle s
      ↔ Settled target.binding s
        ∧ (Reference.inText target.module s = true
          ∨ ∀ l ∈ Text.lines s, Anchor.isAnchor l = false) := by
  rw [← LoggerTarget.not_inserted_iff cwd target file s, ← replacements_eq_zero_iff]
  constructor
  · rintro ⟨-, hits, outcome⟩
    simp only [SourceEdit.of, ruleHits] at hits outcome
    rw [LoggerTarget.fst_ensureImport_of_not_inserted cwd target file s outcome] at hits
    exact ⟨hits, outcome⟩
  · rintro ⟨hits, outcome⟩
    have same := LoggerTarget.fst_ensureImport_of_not_inserted cwd target file s outcome
    refine ⟨?_, ?_, outcome⟩
    · simp only [SourceEdit.of, same]
      exact text_of_replacements_eq_zero hits
    · simp only [SourceEdit.of, same, ruleHits]
      exact hits

/-- A second conversion of a file is idle exactly when, in the text with the import, no two calls of
one rule overlap and no logger call reads back, and the converted text refers to the module or has no
declaration to put an import after. -/
theorem second_idle_iff {document : Text} {config : Config}
    (h : Config.ofDocument document = .ok config) (cwd file : Path) (s : Text) :
    let first := SourceEdit.of cwd config.logger file s
    let imported := (config.logger.ensureImport cwd file s).1
    (SourceEdit.of cwd config.logger file first.text).Idle first.text
      ↔ (∀ r ∈ Rule.all config.logger.binding, ¬ r.Overlaps imported ∧ ¬ r.ReadsBack imported)
        ∧ (Reference.inText config.logger.module first.text = true
          ∨ ∀ l ∈ Text.lines first.text, Anchor.isAnchor l = false) := by
  intro first imported
  have word := Text.isWord_of_isIdentifier (Config.isIdentifier_of_ofDocument h)
  rw [idle_of_iff, ← settled_text_iff word imported]
  rfl

/-- A declaration and a call, with the configuration of a document that sets nothing: the second
conversion is idle, so the text with the import has neither overlaps nor calls that read back. -/
theorem second_idle_declaration_and_call :
    let s := "const a = require('a');\nconsole.warn('x');".toList
    let imported := (LoggerTarget.ensureImport ⟨"/".toList⟩ {} ⟨"a.js".toList⟩ s).1
    ∀ r ∈ Rule.all "logger".toList, ¬ r.Overlaps imported ∧ ¬ r.ReadsBack imported := by
  intro s imported
  have read : Config.ofDocument "[console_to_logger]\n".toList = .ok {} := by
    have evaluated : (Config.ofDocument "[console_to_logger]\n".toList).toOption = some {} := by
      decide +kernel
    generalize Config.ofDocument "[console_to_logger]\n".toList = outcome at evaluated ⊢
    cases outcome with
    | error e => cases evaluated
    | ok c => exact congrArg Except.ok (Option.some.inj evaluated)
  have present : (SourceEdit.of ⟨"/".toList⟩ {} ⟨"a.js".toList⟩
      (SourceEdit.of ⟨"/".toList⟩ {} ⟨"a.js".toList⟩ s).text).importOutcome = .alreadyPresent := by
    decide +kernel
  exact ((second_idle_iff read ⟨"/".toList⟩ ⟨"a.js".toList⟩ s).1
    ⟨by decide +kernel, by decide +kernel, fun _ => by rw [present]; simp⟩).1

-- The quote that closes the first call opens the second, which is left for the next pass.
example : (SourceEdit.of ⟨"/".toList⟩ {} ⟨"a.js".toList⟩
    (SourceEdit.of ⟨"/".toList⟩ {} ⟨"a.js".toList⟩
      "console.log('console.log(');');".toList).text).ruleHits = 1 := by decide +kernel

end SourceEdit

end LogMigration
